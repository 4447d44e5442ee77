import Extremum.Event
import Extremum.Model.Store
import Extremum.Plugin.Registry
import Extremum.Problem.Assembly
import Extremum.Solution.Snapshot
import Extremum.Solver.Settings

/-!
# Optimizers

An optimizer is a model with settings and, after a solve, a snapshot of the result. Every edit of
the model drops the snapshot; a change of start values does not.
-/

namespace Extremum

/-- A model that can be solved. -/
structure Optimizer where
  settings : Settings
  model : Model
  /-- The result of the last solve, unless the model was edited since. -/
  snapshot : Option Snapshot
  /-- A solve is in progress. -/
  inProgress : Bool

namespace Optimizer

def ofSettings (s : Settings) : Optimizer := ⟨s, .empty, none, false⟩

/-- The name of the solver, with the method. -/
def solverName (o : Optimizer) : String := "optbridge (" ++ o.settings.method ++ ")"

def text (o : Optimizer) : String :=
  o.model.text "Optimizer" (", solver=" ++ Text.quoted o.solverName)

/-! ## Edits -/

/-- The optimizer after an edit of its model. -/
def edited (o : Optimizer) (m : Model) : Optimizer := { o with model := m, snapshot := none }

/-- Empties the model. The settings stay. -/
def empty (o : Optimizer) : Optimizer := o.edited o.model.cleared

def addVariable (o : Optimizer) : VariableId × Optimizer :=
  let (v, m) := o.model.addVariable
  (v, o.edited m)

/-- Adds a number of variables. Adding none is no edit. -/
def addVariables (o : Optimizer) (n : Nat) : List VariableId × Optimizer :=
  if n = 0 then ([], o)
  else
    let (vs, m) := o.model.addVariables n
    (vs, o.edited m)

def deleteVariable (o : Optimizer) (v : VariableId) : Except Fault Optimizer :=
  return o.edited (← o.model.deleteVariable v)

def addConstraint (o : Optimizer) (f : FunctionArgument) (r : Region) :
    Except Fault (ConstraintId × Optimizer) := do
  let (id, m) ← o.model.addConstraint f r
  return (id, o.edited m)

def deleteConstraint (o : Optimizer) (id : ConstraintId) : Except Fault Optimizer :=
  return o.edited (← o.model.deleteConstraint id)

def setRegion (o : Optimizer) (id : ConstraintId) (r : Region) : Except Fault Optimizer :=
  return o.edited (← o.model.setRegion id r)

/-- Sets the objective. The snapshot is only dropped when this succeeds. -/
def setObjective (o : Optimizer) (f : FunctionArgument) (value : Value) :
    Except Fault Unit × Optimizer :=
  match o.model.setObjective f value with
  | (.ok (), m) => (.ok (), o.edited m)
  | (.error fault, m) => (.error fault, { o with model := m })

/-- Sets or clears the start value of a variable. -/
def setStart (o : Optimizer) (v : VariableId) (value : Value) : Except Fault Optimizer :=
  return { o with model := ← o.model.setStart v value }

def setBlock (o : Optimizer) (block : Option NonlinearBlock) : Optimizer :=
  o.edited (o.model.setBlock block)

/-! ## The solution -/

/-- The symbol of the outcome of the last solve. -/
def rawStatus (o : Optimizer) : Option String := o.snapshot.map (·.status)

def termination (o : Optimizer) : Termination := .ofSymbol o.rawStatus

def primalStatus (o : Optimizer) : ResultStatus := .primal o.rawStatus

def dualStatus (o : Optimizer) : ResultStatus := .dual o.rawStatus

def resultCount (o : Optimizer) : Nat := ResultStatus.count o.rawStatus

/-- The snapshot, if it holds a feasible point. -/
def feasible? (o : Optimizer) : Option Snapshot := o.snapshot.filter (·.hasPrimal)

def objectiveValue (o : Optimizer) : Option Float := o.feasible?.map (·.objective)

/-- The value of a variable at the feasible point. -/
def variablePrimal (o : Optimizer) (v : VariableId) : Except Fault (Option Float) := do
  o.model.checkVariable v
  match o.feasible? with
  | none => return none
  | some s => return some (← s.value v)

/-- The value of the function of a constraint at the feasible point. -/
def constraintPrimal (o : Optimizer) (id : ConstraintId) : Except Fault (Option Float) := do
  let c ← o.model.constraint id
  match o.feasible? with
  | none => return none
  | some s => do
    let ps ← Positions.ofList (s.primal.map (·.1))
    let e ← Expr.ofFunction ps.position c.function
    return some (← e.evaluate (s.primal.map (·.2)))

end Optimizer

end Extremum
