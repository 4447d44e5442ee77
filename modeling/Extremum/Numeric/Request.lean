import Extremum.Numeric.Method
import Extremum.Problem.Normalized
import Extremum.Solver.Settings

/-!
# Requests to minimizers

What the numerical backend hands to a minimizer: a start, bounds, constraints and settings. The
functions themselves are not part of a request; the minimizer asks for their values.
-/

namespace Extremum.Numeric

/-- The form in which constraints are handed over. -/
inductive ConstraintForm where
  /-- Normalized functions, one by one. -/
  | rows (rows : List NormalRow)
  /-- One vector function with limits. -/
  | limits (lower upper : Grid Float)
  | none

/-- The settings of a minimizer. -/
inductive Arguments where
  /-- A local minimizer. -/
  | minimize (tolerance : Option Float) (method : Method) (options : Option Entries)
  /-- Differential evolution, with a flag for every variable that is discrete. -/
  | evolve (integrality : Grid Bool) (options : Entries)

/-- The bounds of the variables, those of binary variables cut to zero and one. -/
structure VariableBounds where
  lower : Grid Float
  upper : Grid Float

/-- What a minimizer is given. -/
structure Request where
  start : Grid Float
  bounds : Option VariableBounds
  constraints : ConstraintForm
  arguments : Arguments

/-- The lower bound of a variable of some category; a binary variable is not below zero. -/
def effectiveLower (category : Category) (lower : Float) : Float :=
  if category = .binary then Measure.greater lower 0 else lower

/-- The upper bound of a variable of some category; a binary variable is not above one. -/
def effectiveUpper (category : Category) (upper : Float) : Float :=
  if category = .binary then Measure.lesser upper 1 else upper

/-- The lower bounds of the variables of a problem. -/
def lowerBounds (p : Problem) : List Float :=
  List.zipWith effectiveLower p.categories.entries p.variableLower.entries

/-- The upper bounds of the variables of a problem. -/
def upperBounds (p : Problem) : List Float :=
  List.zipWith effectiveUpper p.categories.entries p.variableUpper.entries

theorem length_lowerBounds (p : Problem) : (lowerBounds p).length = p.variableCount := by
  have hcategories : p.categories.entries.length = p.variableCount := p.categories_size
  have hlower : p.variableLower.entries.length = p.variableCount := p.variableLower_size
  rw [lowerBounds, List.length_zipWith, hcategories, hlower, Nat.min_self]

theorem length_upperBounds (p : Problem) : (upperBounds p).length = p.variableCount := by
  have hcategories : p.categories.entries.length = p.variableCount := p.categories_size
  have hupper : p.variableUpper.entries.length = p.variableCount := p.variableUpper_size
  rw [upperBounds, List.length_zipWith, hcategories, hupper, Nat.min_self]

/--
The fault of the first dimension, counted from `axis`, in which a grid of flags differs from the
grid that it selects from. A dimension without flags selects nothing, whatever it meets.
-/
def maskFault? (axis : Nat) : List Nat → List Nat → Option Fault
  | m :: mask, n :: shape =>
    if m = n ∨ m = 0 then maskFault? (axis + 1) mask shape else some (.unevenMask axis n m)
  | _, _ => none

/-- Fails unless the dimensions of a grid of flags are the first of the grid it selects from. -/
def checkMask (mask shape : List Nat) : Except Fault Unit :=
  if shape.length < mask.length then .error (.tooManyIndices shape.length mask.length)
  else match maskFault? 0 mask shape with
    | some fault => .error fault
    | none => .ok ()

/-- The bounds of the variables of a problem, whose binary variables are selected by a grid. -/
def variableBounds (p : Problem) : Except Fault VariableBounds := do
  checkMask p.categories.shape p.variableLower.shape
  checkMask p.categories.shape p.variableUpper.shape
  return {
    lower := {
      shape := p.variableLower.shape
      entries := lowerBounds p
      filled := by
        rw [length_lowerBounds, ← p.variableLower_size, Grid.size, p.variableLower.filled] }
    upper := {
      shape := p.variableUpper.shape
      entries := upperBounds p
      filled := by
        rw [length_upperBounds, ← p.variableUpper_size, Grid.size, p.variableUpper.filled] } }

/-- The bounds as a minimizer is given them: none unless one of them is finite. -/
def givenBounds (b : VariableBounds) : Except Fault (Option VariableBounds) :=
  if b.lower.entries.any Float.isFinite ∨ b.upper.entries.any Float.isFinite then
    if (commonShape? b.lower.shape b.upper.shape).isSome then .ok (some b) else .error .unevenRange
  else .ok none

def clamp (lower upper x : Float) : Float := Measure.lesser (Measure.greater x lower) upper

/-- The start values of a problem, each moved into the bounds that it meets. -/
def startPoint (p : Problem) (b : VariableBounds) : Except Fault (Grid Float) :=
  Grid.combineThree (fun x lower upper => clamp lower upper x) p.warmStart b.lower b.upper

/-- The constraints of a problem in the form that a method takes. -/
def constraintForm (m : Method) (p : Problem) : Except Fault ConstraintForm :=
  if m.takesRows then (NormalRow.ofGrids p.constraintLower p.constraintUpper).map .rows
  else if p.constraintCount = 0 then .ok .none
  else .ok (.limits p.constraintLower p.constraintUpper)

/-- The options of the settings; the limit of iterations takes the place of an option for it. -/
def givenOptions (s : Settings) : Entries :=
  let options := s.options.getD []
  match s.maxIterations with
  | some n => options.insert "maxiter" (.int n)
  | none => options

/-- Sets an option that is not set. -/
def withOption (name : String) (v : Value) (options : Entries) : Entries :=
  if (options.lookup name).isSome then options else options ++ [(name, v)]

def arguments (s : Settings) (m : Method) (p : Problem) : Arguments :=
  let options := givenOptions s
  match m with
  | .differentialEvolution =>
    let options :=
      match s.tolerance with
      | some tolerance => withOption "tol" (.float tolerance) options
      | none => options
    .evolve (p.categories.map (· != .continuous))
      (withOption "polish" (.bool false) options)
  | m => .minimize s.tolerance m (if options.isEmpty then none else some options)

/-- A fault of the run of a minimizer, as it is passed on. -/
def runFault (m : Method) (fault : Fault) : Fault :=
  if fault.isNumerical then .solverFailure ("SciPy " ++ m.name ++ " failed: " ++ fault.message)
  else fault

/-- The making of the constraints counts as part of the run, that of bounds and start does not. -/
def request (s : Settings) (m : Method) (p : Problem) (b : VariableBounds) :
    Except Fault Request := do
  let bounds ← givenBounds b
  let start ← startPoint p b
  let constraints ← (constraintForm m p).mapError (runFault m)
  return ⟨start, bounds, constraints, arguments s m p⟩

end Extremum.Numeric
