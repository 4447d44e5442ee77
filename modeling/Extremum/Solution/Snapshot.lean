import Extremum.Expr.Evaluation
import Extremum.Grid.Basic
import Extremum.Problem.Positions
import Extremum.Solution.Status

/-!
# Snapshots

A snapshot keeps the result of a solve by the variables of the model. It does not change when the
model does.
-/

namespace Extremum

/-- What a solver returns: variable values by position. -/
structure SolverResult where
  /-- The symbol of the outcome. -/
  status : String
  objective : Float
  primal : Grid Float

/-- The result of a solve. -/
structure Snapshot where
  /-- The symbol of the outcome. -/
  status : String
  objective : Float
  /-- The values of the variables, in the order of their positions. -/
  primal : List (VariableId × Float)

namespace Snapshot

/-- The snapshot of a solver that failed. -/
def failure : Snapshot := ⟨SolverStatus.failed.symbol, 0.0 / 0.0, []⟩

/-- The values of variables, read from a vector by position. -/
def primalOf (ps : Positions) (x : List Float) : Except Fault (List (VariableId × Float)) :=
  ps.items.mapM fun (v, p) => do
    let value ← readEntry x ((p : Int) - 1)
    return (v, value)

def ofResult (ps : Positions) (r : SolverResult) : Except Fault Snapshot := do
  return ⟨r.status, r.objective, ← primalOf ps r.primal.entries⟩

def hasPrimal (s : Snapshot) : Bool := ResultStatus.primal (some s.status) == .feasiblePoint

def value (s : Snapshot) (v : VariableId) : Except Fault Float :=
  match s.primal.lookup v with
  | some x => .ok x
  | none => .error (.noValue v)

end Snapshot

end Extremum
