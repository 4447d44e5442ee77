import Extremum.Evaluator.Nonlinear
import Extremum.Value.Real

/-!
# Models

A model holds variables, constraints that require a function to lie in a region, an objective, start
values and an optional nonlinear block. Identifiers are issued in increasing order and are not
issued again before the model is emptied. Constraints are kept in the order of issue; those of one
kind are enumerated in that order.

An edit either succeeds with its result and the new model, or fails with a fault and leaves the
model as it is. The one exception is `Model.setObjective`.
-/

namespace Extremum

/-- A function, the region it must lie in, and the identifier of the two. -/
structure Constraint where
  id : ConstraintId
  function : ScalarFunction
  region : Region

/-- The variable of a constraint that is on just one. -/
def Constraint.variable (c : Constraint) : Except Fault VariableId :=
  match c.function with
  | .single v => .ok v
  | _ => .error .notSingle

/-- The sense that a raw value stands for: one of the words for senses. -/
def Sense.ofValue? : Value → Option Sense
  | .text s => ofText? s
  | _ => none

/-- The start value that a raw value stands for; null stands for none. -/
def Value.asStart : Value → Except Fault (Option Float)
  | .null => .ok none
  | v => v.toFloat.map some

/-- A structured optimization model. -/
structure Model where
  vars : List VariableId
  constraints : List Constraint
  objective : ScalarFunction
  sense : Sense
  starts : List (VariableId × Float)
  block : Option NonlinearBlock
  /-- How many variables were issued since the model was emptied. -/
  issuedVariables : Nat
  /-- How many constraints were issued since the model was emptied. -/
  issuedConstraints : Nat

namespace Model

def empty : Model where
  vars := []
  constraints := []
  objective := .zero
  sense := .feasibility
  starts := []
  block := none
  issuedVariables := 0
  issuedConstraints := 0

/-- Takes everything out of a model. Identifiers are issued from the first one on again. -/
def cleared (m : Model) : Model :=
  { m with
    constraints := []
    vars := []
    issuedVariables := 0
    issuedConstraints := 0
    objective := .zero
    sense := .feasibility
    starts := []
    block := none }

/-- The model has no variables, constraints, objective or nonlinear block. -/
def isEmpty (m : Model) : Bool :=
  m.vars.isEmpty && m.constraints.isEmpty && m.sense == .feasibility && m.block.isNone

/-! ## Variables -/

/-- Fails unless the variable is in the model. -/
def checkVariable (m : Model) (v : VariableId) : Except Fault Unit :=
  if v ∈ m.vars then .ok () else .error (.unknownVariable v)

def addVariable (m : Model) : VariableId × Model :=
  let v : VariableId := ⟨m.issuedVariables + 1⟩
  (v, { m with vars := m.vars ++ [v], issuedVariables := m.issuedVariables + 1 })

def addVariables (m : Model) : Nat → List VariableId × Model
  | 0 => ([], m)
  | n + 1 =>
    let (v, m) := m.addVariable
    let (vs, m) := m.addVariables n
    (v :: vs, m)

/--
What becomes of a constraint when a variable goes: nothing is left of one on just the variable.
-/
def constraintWithout (v : VariableId) (c : Constraint) : Option Constraint :=
  match c.function with
  | .single w => if w = v then none else some c
  | f => some { c with function := f.without v }

/-- What becomes of the objective when a variable goes. -/
def objectiveWithout (v : VariableId) (f : ScalarFunction) : ScalarFunction :=
  match f with
  | .single w => if w = v then .zero else .single w
  | f => f.without v

/-- Deletes a variable, the constraints on just this variable, and all terms that mention it. -/
def deleteVariable (m : Model) (v : VariableId) : Except Fault Model := do
  m.checkVariable v
  return { m with
    vars := m.vars.filter (· ≠ v)
    constraints := m.constraints.filterMap (constraintWithout v)
    objective := objectiveWithout v m.objective
    starts := m.starts.filter (·.1 ≠ v) }

/-! ## Constraints -/

def find? (m : Model) (id : ConstraintId) : Option Constraint :=
  m.constraints.find? (·.id = id)

/-- The constraint with an identifier, which must be in the model. -/
def constraint (m : Model) (id : ConstraintId) : Except Fault Constraint :=
  match m.find? id with
  | some c => .ok c
  | none => .error (.unknownConstraint id)

/-- The constraints on functions of one kind in regions of one kind, in the order of issue. -/
def group (m : Model) (function region : Kind) : List Constraint :=
  m.constraints.filter fun c => c.id.function = function ∧ c.id.region = region

/-- The pairs of kinds that have constraints. -/
def groupKinds (m : Model) : List (Kind × Kind) :=
  Kind.supportedPairs.filter fun k => ¬ (m.group k.1 k.2).isEmpty

/-- All constraints, by kinds and then in the order of issue. -/
def byKind (m : Model) : List Constraint :=
  Kind.supportedPairs.flatMap fun k => m.group k.1 k.2

/-- Fails for the first variable that is not in the model. -/
def checkVariables (m : Model) (vs : List VariableId) : Except Fault Unit :=
  vs.forM m.checkVariable

/-- Adds the constraint that a function lies in a region. -/
def addConstraint (m : Model) (argument : FunctionArgument) (region : Region) :
    Except Fault (ConstraintId × Model) :=
  match argument with
  | .foreign r => .error (.unsupportedConstraint r.kind region.kind)
  | .function f => do
    if ¬ Kind.isSupported f.kind region.kind then
      throw (.unsupportedConstraint f.kind region.kind)
    m.checkVariables f.vars
    let id : ConstraintId := ⟨m.issuedConstraints + 1, f.kind, region.kind⟩
    return (id, { m with
      constraints := m.constraints ++ [⟨id, f, region⟩]
      issuedConstraints := m.issuedConstraints + 1 })

def deleteConstraint (m : Model) (id : ConstraintId) : Except Fault Model := do
  let _ ← m.constraint id
  return { m with constraints := m.constraints.filter (·.id ≠ id) }

/-- Replaces the region of a constraint by one of the same kind. -/
def setRegion (m : Model) (id : ConstraintId) (region : Region) : Except Fault Model := do
  let _ ← m.constraint id
  if region.kind ≠ id.region then throw (.regionKindChange id.region region.kind)
  return { m with
    constraints := m.constraints.map fun c => if c.id = id then { c with region := region } else c }

/-! ## Objective, start values and nonlinear block -/

/--
Sets the objective and its sense. The function is in place before the value for the sense is read,
and it stays there when the value stands for no sense.
-/
def setObjective (m : Model) (argument : FunctionArgument) (value : Value) :
    Except Fault Unit × Model :=
  match argument with
  | .foreign r => (.error (.noVariables r.kind), m)
  | .function f =>
    match m.checkVariables f.vars with
    | .error fault => (.error fault, m)
    | .ok () =>
      match Sense.ofValue? value with
      | none => (.error (.unknownSense value.literal), { m with objective := f })
      | some sense => (.ok (), { m with objective := f, sense := sense })

/--
Sets the start value of a variable, or clears it. The value is converted after the variable is
checked, and before anything is stored.
-/
def setStart (m : Model) (v : VariableId) (value : Value) : Except Fault Model := do
  m.checkVariable v
  let others := m.starts.filter (·.1 ≠ v)
  return { m with
    starts := match ← value.asStart with
      | none => others
      | some x => (v, x) :: others }

def startOf? (m : Model) (v : VariableId) : Option Float :=
  (m.starts.find? (·.1 = v)).map (·.2)

/-- The start value of a variable, which must be in the model. -/
def start (m : Model) (v : VariableId) : Except Fault (Option Float) := do
  m.checkVariable v
  return m.startOf? v

def setBlock (m : Model) (block : Option NonlinearBlock) : Model := { m with block := block }

def text (name : String) (m : Model) (more : String) : String :=
  name ++ "(variables=" ++ toString m.vars.length ++ ", constraints=" ++
    toString m.constraints.length ++ more ++ ")"

end Model

end Extremum
