import Extremum.Expr.Basic

/-!
# Nonlinear evaluators

A nonlinear evaluator supplies the nonlinear part of a model as expressions over the variables of
the model. It always gives the same answer to the same question, or fails in the same way. What it
was asked is kept in a record of calls, apart from the evaluator itself.
-/

namespace Extremum

/-- The feature of giving out expression graphs. -/
def expressionGraphs : String := "ExprGraph"

/-- The names of the features that evaluators may have. -/
def evaluatorFeatures : List String := ["Grad", "Jac", "Hess", expressionGraphs]

/-- The supplier of a nonlinear objective and nonlinear constraints, counted from one. -/
structure NonlinearEvaluator where
  /-- Tells evaluators apart in the record of calls. -/
  id : Nat
  /-- Prepares for the use of features. -/
  prepare : List String → Except Fault Unit
  /-- The features that there are. -/
  features : Except Fault (List String)
  objective : Except Fault Expr
  constraint : Nat → Except Fault Expr

namespace NonlinearEvaluator

/-- The evaluator that gives out fixed expressions. -/
def ofExprs (id : Nat) (objective : Option Expr) (constraints : List Expr)
    (features : List String) : NonlinearEvaluator where
  id := id
  prepare _ := .ok ()
  features := .ok features
  objective :=
    match objective with
    | some e => .ok e
    | none => .error .noObjective
  constraint i :=
    match i with
    | 0 => .error (.noConstraint 0)
    | i + 1 =>
      match constraints[i]? with
      | some e => .ok e
      | none => .error (.noConstraint (i + 1))

end NonlinearEvaluator

/-- The nonlinear part of a model: one pair of bounds for each nonlinear constraint. -/
structure NonlinearBlock where
  evaluator : NonlinearEvaluator
  bounds : List (Float × Float)
  /-- The evaluator supplies the objective. -/
  hasObjective : Bool

/-- A question put to a nonlinear evaluator. -/
inductive EvaluatorQuestion where
  | prepare (features : List String)
  | features
  | objective
  | constraint (index : Nat)
deriving DecidableEq, Repr

/-- A question and the evaluator it was put to. -/
structure EvaluatorCall where
  evaluator : Nat
  question : EvaluatorQuestion
deriving DecidableEq, Repr

namespace EvaluatorCall

def questions (calls : List EvaluatorCall) (id : Nat) : List EvaluatorQuestion :=
  (calls.filter (·.evaluator = id)).map (·.question)

def requested (questions : List EvaluatorQuestion) : Option (List String) :=
  questions.foldl (fun last q => match q with
    | .prepare features => some features
    | _ => last) none

/-- The index of the expression that is asked for; the objective has index zero. -/
def index? : EvaluatorQuestion → Option Nat
  | .objective => some 0
  | .constraint i => some i
  | _ => none

/-- How often each index was asked for, in increasing order of the index. -/
def counts (questions : List EvaluatorQuestion) : List (Nat × Nat) :=
  let asked := questions.filterMap index?
  let distinct := (asked.mergeSort (· ≤ ·)).eraseReps
  distinct.map fun i => (i, asked.count i)

end EvaluatorCall

end Extremum
