import Extremum.Event
import Extremum.Grid.Reading
import Extremum.Numeric.Dialogue
import Extremum.Solution.Snapshot

/-!
# Solving with the numerical backend

The problem is checked against the abilities of the method, its expressions are compiled, a
minimizer is run, and the point that it returns is judged anew. Failures of arithmetic and
unusable values during the run are failures of the solver; other faults pass through.
-/

namespace Extremum.Numeric

/-- A request and the dialogue that it led to. -/
structure Exchange where
  request : Request
  transcript : Transcript

/-- What a solve leaves behind, besides its result. -/
structure SolveState where
  evaluator : EvaluatorState
  events : List Event
  exchange : Option Exchange

abbrev SolveM := EStateM Fault SolveState

/-- Puts queries to the evaluator of the problem. -/
def queried {α : Type} (query : EvaluatorM α) : SolveM α := fun s =>
  match query s.evaluator with
  | .ok a e => .ok a { s with evaluator := e }
  | .error fault e => .error fault { s with evaluator := e }

/-- The bounds of the variables, which have to be finite if the method requires it. -/
def checkedBounds (m : Method) (p : Problem) : Except Fault VariableBounds := do
  let b ← variableBounds p
  if m = .differentialEvolution ∧
      ¬ (b.lower.entries.all Float.isFinite ∧ b.upper.entries.all Float.isFinite) then
    throw (.finiteBoundsRequired m.name)
  return b

/-- Compiles an expression as soon as the evaluator has given it. -/
def compiled (query : EvaluatorM Expr) : EvaluatorM Compiled := do
  MonadExcept.ofExcept (← query).compile

/--
The normalized constraints of a problem. If they cannot be made, then no minimizer is run that would
ask for them.
-/
def normalRows (p : Problem) : List NormalRow :=
  (NormalRow.ofGrids p.constraintLower p.constraintUpper).toOption.getD []

/-- Compiles the objective and the constraints of a problem. -/
def functions (p : Problem) : EvaluatorM Functions := do
  let u := p.evaluator
  u.prepare [expressionGraphs]
  let features ← u.features
  if ¬ features.contains expressionGraphs then
    throw (.solverFailure "The evaluator does not provide expression graphs")
  let objective ← compiled u.objectiveExpression
  let constraints ← (List.range p.constraintCount).mapM fun i =>
    compiled (u.constraintExpression (i + 1 : Nat))
  return {
    objective := objective
    constraints := constraints
    sign := p.direction.sign
    rows := normalRows p }

/-- The outcome for a problem without variables. -/
def emptyOutcome : Outcome := ⟨.list [], some (.bool true), some (.text "")⟩

/-- Runs a minimizer, unless there is nothing to minimize over. -/
def minimized (s : Settings) (m : Method) (minimizer : Minimizer) (p : Problem)
    (b : VariableBounds) (f : Functions) : SolveM (Outcome × ConstraintCache) := do
  if p.variableCount = 0 then return (emptyOutcome, .empty)
  let r ← MonadExcept.ofExcept (request s m p b)
  let conclusion := (minimizer r).run f .empty
  modify fun state => { state with exchange := some ⟨r, conclusion.transcript⟩ }
  match conclusion.result with
  | .ok outcome => return (outcome, conclusion.cache)
  | .error fault => throw (runFault m fault)

/-- The point of an outcome: a list of one value for each variable. -/
def outcomePoint (p : Problem) (o : Outcome) : Except Fault (Grid Float) := do
  let x ← Grid.ofNested Grid.realEntry o.point
  if x.isVector p.variableCount then return x
  else
    throw (.solverFailure ("SciPy returned " ++ toString x.size ++
      " variable values, expected " ++ toString p.variableCount))

/-- The result that follows from an outcome. -/
def judged (m : Method) (p : Problem) (b : VariableBounds) (f : Functions) (o : Outcome)
    (c : ConstraintCache) : SolveM SolverResult := do
  let x ← MonadExcept.ofExcept (outcomePoint p o)
  let objective ← MonadExcept.ofExcept (f.objective x.entries)
  let outside ← MonadExcept.ofExcept (x.violation b.lower b.upper)
  let values ← MonadExcept.ofExcept (c.valuesAt f.constraints x.entries).1
  let broken ← MonadExcept.ofExcept
    ((Grid.ofList values).violation p.constraintLower p.constraintUpper)
  let status := o.status (f.sign * objective) (Measure.later outside broken)
  match o.message with
  | none => throw (.missingField "message")
  | some message =>
    modify fun s =>
      { s with events := s.events ++ [.backendFinished m.name status.symbol message] }
    return ⟨status.symbol, objective, x⟩

def solve (s : Settings) (m : Method) (minimizer : Minimizer) (p : Problem) :
    SolveM SolverResult := do
  MonadExcept.ofExcept (m.checkFeatures p)
  let b ← MonadExcept.ofExcept (checkedBounds m p)
  let f ← queried (functions p)
  let (outcome, cache) ← minimized s m minimizer p b f
  judged m p b f outcome cache

end Extremum.Numeric
