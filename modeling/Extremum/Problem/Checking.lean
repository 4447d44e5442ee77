import Extremum.Grid.Reading
import Extremum.Problem.Basic
import Extremum.Value.Record

/-!
# Problems from raw fields

Each field is read on its own, and the issues of all fields are reported together. Only when all of
them could be read, sizes, categories and the evaluator are compared with the counts, and the first
disagreement is reported. Some entries of arrays fail in a way that ends the reading at once.
-/

namespace Extremum.Problem

/-- The fields of a problem after reading. -/
structure Fields where
  variableCount : Nat
  constraintCount : Nat
  variableLower : Grid Float
  variableUpper : Grid Float
  constraintLower : Grid Float
  constraintUpper : Grid Float
  direction : Direction
  categories : Grid Nat
  warmStart : Grid Float

def fieldNames : List String :=
  ["variable_count", "constraint_count", "variable_lower_bounds", "variable_upper_bounds",
    "constraint_lower_bounds", "constraint_upper_bounds", "sense", "categories", "warm_start"]

/-- The fault says that a value is unusable; it is an issue of the field with the value. -/
def isUnusable : Fault → Bool
  | .ragged _ | .tooDeep _ | .unreadableFloat _ | .nanAsInt => true
  | .unreadableInt _ | .overlongInt _ _ => true
  | _ => false

/-- A grid, or the issue of the field that should hold it. -/
def gridField {α : Type} (entry : Value → Except Fault α) (v : Value) :
    Except Fault (Checked (Grid α)) :=
  match v with
  | .null => .ok (.error [.here .notArray])
  | v =>
    match Grid.ofValue entry v with
    | .ok g => .ok (.ok g)
    | .error fault =>
      if isUnusable fault then .ok (.error [.here (.rejected fault.message)]) else .error fault

def directionField (v : Value) : Checked Direction :=
  match v with
  | .text s =>
    match Direction.ofText? s with
    | some d => .ok d
    | none => .error [.here (.notAmong (Direction.all.map (.text ·.text)))]
  | _ => .error [.here (.notAmong (Direction.all.map (.text ·.text)))]

/-- The field with a name; it must be there unless it has a default. -/
def field {α : Type} (entries : Entries) (name : String) (default? : Option α)
    (read : Value → Except Fault (Checked α)) : Except Fault (Checked α) :=
  match entries.lookup name, default? with
  | some v, _ => return (← read v).within (.name name)
  | none, some a => return .ok a
  | none, none => return .error [⟨[.name name], .missing⟩]

def readFields (entries : Entries) : Except Fault (Checked Fields) := do
  let count := fun (v : Value) => (.ok (.ofDefect v.asCount) : Except Fault (Checked Nat))
  let reals := gridField Grid.realEntry
  let vars ← field entries "variable_count" none count
  let constraints ← field entries "constraint_count" none count
  let variableLower ← field entries "variable_lower_bounds" none reals
  let variableUpper ← field entries "variable_upper_bounds" none reals
  let constraintLower ← field entries "constraint_lower_bounds" none reals
  let constraintUpper ← field entries "constraint_upper_bounds" none reals
  let direction ← field entries "sense" (some .minimize) fun v => .ok (directionField v)
  let categories ← field entries "categories" none (gridField Grid.byteEntry)
  let warmStart ← field entries "warm_start" none reals
  let known := Checked.both Fields.mk vars constraints
  let known := Checked.apply known variableLower
  let known := Checked.apply known variableUpper
  let known := Checked.apply known constraintLower
  let known := Checked.apply known constraintUpper
  let known := Checked.apply known direction
  let known := Checked.apply known categories
  let known := Checked.apply known warmStart
  return Checked.andAlso known (entries.nothingBut fieldNames)

def categoryOfCode? (code : Nat) : Option Category := Category.all.find? (·.code = code)

/-- A grid of codes as categories, if every code is one of a category. -/
def categoryGrid? (g : Grid Nat) : Option (Grid Category) :=
  let entries := g.entries.filterMap categoryOfCode?
  if h : entries.length = cellCount g.shape then some ⟨g.shape, entries, h⟩ else none

/-- The issue that a problem as a whole is not accepted. -/
def rejection (reason : String) : Fault := .invalid [.here (.rejected reason)]

/-- Makes sure that a grid has as many entries as it should have. -/
def requireSize {α : Type} (name : String) (g : Grid α) (n : Nat) :
    Except Fault (PLift (g.size = n)) :=
  if h : g.size = n then .ok ⟨h⟩
  else
    .error (rejection (name ++ " has length " ++ toString g.size ++ ", expected " ++ toString n))

/-- Makes sure that an evaluator has as many constraints as it should have. -/
def requireCount (u : UnifiedEvaluator) (n : Nat) :
    Except Fault (PLift (u.constraintCount = n)) :=
  if h : u.constraintCount = n then .ok ⟨h⟩
  else
    .error (rejection ("The evaluator provides " ++ toString u.constraintCount ++
      " constraints, expected " ++ toString n))

/-- The problem with the given fields and evaluator. -/
def ofFields (f : Fields) (u : UnifiedEvaluator) : Except Fault Problem := do
  let ⟨h₁⟩ ← requireSize "variable_lower_bounds" f.variableLower f.variableCount
  let ⟨h₂⟩ ← requireSize "variable_upper_bounds" f.variableUpper f.variableCount
  let ⟨_⟩ ← requireSize "categories" f.categories f.variableCount
  let ⟨h₃⟩ ← requireSize "warm_start" f.warmStart f.variableCount
  let ⟨h₄⟩ ← requireSize "constraint_lower_bounds" f.constraintLower f.constraintCount
  let ⟨h₅⟩ ← requireSize "constraint_upper_bounds" f.constraintUpper f.constraintCount
  match categoryGrid? f.categories with
  | none => throw (rejection "invalid enumeration value")
  | some categories =>
    let ⟨h₆⟩ ← requireSize "categories" categories f.variableCount
    let ⟨h₇⟩ ← requireCount u f.constraintCount
    return {
      variableCount := f.variableCount
      constraintCount := f.constraintCount
      variableLower := f.variableLower
      variableUpper := f.variableUpper
      constraintLower := f.constraintLower
      constraintUpper := f.constraintUpper
      direction := f.direction
      categories := categories
      warmStart := f.warmStart
      evaluator := u
      variableLower_size := h₁
      variableUpper_size := h₂
      constraintLower_size := h₄
      constraintUpper_size := h₅
      categories_size := h₆
      warmStart_size := h₃
      evaluator_count := h₇ }

def ofEntries (entries : Entries) (u : UnifiedEvaluator) : Except Fault Problem := do
  match ← readFields entries with
  | .ok fields => ofFields fields u
  | .error issues => throw (.invalid issues)

end Extremum.Problem
