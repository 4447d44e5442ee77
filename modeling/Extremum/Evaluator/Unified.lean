import Extremum.Evaluator.Nonlinear
import Extremum.Expr.Resolution
import Extremum.Problem.Positions

/-!
# Unified evaluators

A solver sees one evaluator, whatever a model is made of. The constraints of the nonlinear block
come first, counted from one, then the algebraic ones. Expressions of the nonlinear evaluator are
resolved to positions when they are first asked for, and kept; the others are resolved already.

The evaluator itself never changes. What has been resolved so far, and what the nonlinear evaluator
was asked, is the state that its queries pass on.
-/

namespace Extremum

/-- What queries to a unified evaluator leave behind. -/
structure EvaluatorState where
  /-- The resolved expressions of the nonlinear evaluator by index; the objective has index zero. -/
  resolved : List (Nat × Expr)
  /-- What nonlinear evaluators were asked, in order. -/
  calls : List EvaluatorCall

def EvaluatorState.initial : EvaluatorState := ⟨[], []⟩

/-- A query to evaluators: it answers or fails, and keeps a record in both cases. -/
abbrev EvaluatorM := EStateM Fault EvaluatorState

/-- The evaluator of a problem. -/
structure UnifiedEvaluator where
  /-- The nonlinear block of the model. -/
  inner : Option NonlinearBlock
  positions : Positions
  /-- The algebraic objective. -/
  objective : Option Expr
  /-- The algebraic constraints. -/
  constraints : List Expr

namespace UnifiedEvaluator

def innerCount (u : UnifiedEvaluator) : Nat :=
  match u.inner with
  | some block => block.bounds.length
  | none => 0

def constraintCount (u : UnifiedEvaluator) : Nat := u.innerCount + u.constraints.length

/-- Records a question to a nonlinear evaluator. -/
def record (evaluator : NonlinearEvaluator) (question : EvaluatorQuestion) : EvaluatorM Unit :=
  modify fun s => { s with calls := s.calls ++ [⟨evaluator.id, question⟩] }

/-- Asks the nonlinear evaluator to prepare for the use of features. -/
def prepare (u : UnifiedEvaluator) (features : List String) : EvaluatorM Unit :=
  match u.inner with
  | some block => do
    record block.evaluator (.prepare features)
    MonadExcept.ofExcept (block.evaluator.prepare features)
  | none => pure ()

/-- The features of the nonlinear evaluator; without one, expression graphs. -/
def features (u : UnifiedEvaluator) : EvaluatorM (List String) :=
  match u.inner with
  | some block => do
    record block.evaluator .features
    MonadExcept.ofExcept block.evaluator.features
  | none => pure [expressionGraphs]

/-- What a nonlinear evaluator gives for an index; the objective has index zero. -/
def given (evaluator : NonlinearEvaluator) : Nat → Except Fault Expr
  | 0 => evaluator.objective
  | i + 1 => evaluator.constraint (i + 1)

/-- The question that asks for an index. -/
def questionFor : Nat → EvaluatorQuestion
  | 0 => .objective
  | i + 1 => .constraint (i + 1)

/-- The resolved expression of the nonlinear evaluator for an index. -/
def innerExpression (u : UnifiedEvaluator) (evaluator : NonlinearEvaluator) (index : Nat) :
    EvaluatorM Expr := do
  match (← get).resolved.lookup index with
  | some e => return e
  | none =>
    record evaluator (questionFor index)
    let e ← MonadExcept.ofExcept (given evaluator index)
    let e ← MonadExcept.ofExcept (e.resolve u.positions.position)
    modify fun s => { s with resolved := (index, e) :: s.resolved }
    return e

/-- The objective: the algebraic one, else the nonlinear one if the block has one, else zero. -/
def objectiveExpression (u : UnifiedEvaluator) : EvaluatorM Expr :=
  match u.objective, u.inner with
  | some e, _ => pure e
  | none, some block =>
    if block.hasObjective then u.innerExpression block.evaluator 0 else pure (.constant 0)
  | none, none => pure (.constant 0)

/-- The algebraic constraint with an index. The nonlinear constraints are counted before it. -/
def algebraicConstraint (u : UnifiedEvaluator) (index : Int) : EvaluatorM Expr :=
  match u.constraints[(index - u.innerCount - 1).toNat]? with
  | some e => pure e
  | none => throw (.unknownPosition index)

/-- The constraint with an index, counted from one. -/
def constraintExpression (u : UnifiedEvaluator) (index : Int) : EvaluatorM Expr :=
  if index < 1 then throw (.unknownPosition index)
  else
    match u.inner with
    | some block =>
      if index ≤ block.bounds.length then u.innerExpression block.evaluator index.toNat
      else u.algebraicConstraint index
    | none => u.algebraicConstraint index

end UnifiedEvaluator

end Extremum
