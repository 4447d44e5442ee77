import Extremum.Grid.Stretch
import Extremum.Problem.Limits

/-!
# Normalized constraints

A constraint with limits on both sides becomes constraints of the forms `c = 0` and `c ≥ 0`: one
equality if its limits are close, else one inequality for each finite limit.
-/

namespace Extremum

/-- A constraint `c = 0` or `c ≥ 0` made of one limit of a constraint. -/
structure NormalRow (α : Type := Float) where
  /-- The index of the constraint it is made of, counted from zero. -/
  index : Nat
  isEquality : Bool
  limit : α
  /-- The limit is an upper one, so that the value is subtracted from it. -/
  isUpper : Bool

namespace NormalRow

variable {α : Type} [Measure α]

/-- What becomes of the constraint with an index. -/
def ofLimits (index : Nat) (lower upper : α) : List (NormalRow α) :=
  if Measure.areClose lower upper then [⟨index, true, lower, false⟩]
  else
    (if Measure.isFinite lower then [⟨index, false, lower, false⟩] else []) ++
      (if Measure.isFinite upper then [⟨index, false, upper, true⟩] else [])

/-- What becomes of a list of constraints, the first of which has the given index. -/
def allFrom (index : Nat) : List α → List α → List (NormalRow α)
  | lower :: lowers, upper :: uppers =>
    ofLimits index lower upper ++ allFrom (index + 1) lowers uppers
  | _, _ => []

/-- What becomes of constraints with the given limits. -/
def all (lower upper : List α) : List (NormalRow α) := allFrom 0 lower upper

/-- The normalized value, if the constraint has the given value. -/
def normalized (row : NormalRow α) (value : α) : α :=
  let difference := Measure.sub value row.limit
  if row.isUpper then Measure.neg difference else difference

/-- The normalized value, if all constraints have the given values. -/
def valueAt (row : NormalRow α) (values : List α) : Except Fault α :=
  match values[row.index]? with
  | some value => .ok (row.normalized value)
  | none => .error (.outOfBounds row.index values.length)

def valuesAt (rows : List (NormalRow α)) (values : List α) : Except Fault (List α) :=
  rows.mapM (·.valueAt values)

end NormalRow

/-! ## Limits in grids -/

/-- Fails unless grids of two shapes are combined into a single cell. -/
def requireSingle (shape shape' : List Nat) : Except Fault Unit :=
  match commonShape? shape shape' with
  | none => .error (.unevenShapes [shape, shape'])
  | some common =>
    match cellCount common with
    | 0 => .error .emptyTruth
    | 1 => .ok ()
    | _ => .error .ambiguousTruth

/--
What becomes of constraints whose limits are the parts of grids along their first dimensions. There
have to be as many lower limits as upper ones, which is found out after those that meet. A limit may
be a grid itself, as long as it has a single cell.
-/
def NormalRow.ofGrids (lower upper : Grid Float) : Except Fault (List NormalRow) := do
  let lowerCount := lower.shape.headD 1
  let upperCount := upper.shape.headD 1
  if 0 < min lowerCount upperCount then requireSingle upper.shape.tail lower.shape.tail
  if lowerCount = upperCount then return NormalRow.all lower.entries upper.entries
  else throw (.unevenBounds lowerCount upperCount)

namespace Grid

/-- The greatest entry; an undefined one if there is any. There has to be an entry. -/
def greatest (g : Grid Float) : Except Fault Float :=
  if g.entries.isEmpty then .error .greatestOfNothing else .ok (Measure.greatest g.entries)

/-- How far the worst of some values lies outside its limits. -/
def violation (values lower upper : Grid Float) : Except Fault Float := do
  if values.entries.isEmpty then return Measure.zero
  let below ← lower.combine Measure.shortfall values
  let above ← values.combine Measure.excess upper
  return Measure.later (Measure.later (← below.greatest) (← above.greatest)) Measure.zero

end Grid

end Extremum
