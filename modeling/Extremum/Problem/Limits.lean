/-!
# Limits on values

How values compare with the limits set for them: when two limits make an equality, how far values
are outside their limits. The numbers are floats, or any other type with the same operations.
-/

namespace Extremum

/-- Numbers that may be infinite or undefined. -/
class Measure (α : Type) where
  zero : α
  sub : α → α → α
  neg : α → α
  less : α → α → Bool
  isFinite : α → Bool
  isUndefined : α → Bool
  /-- Limits that are closer than this are taken as equal. -/
  closeness : α

instance : Measure Float where
  zero := 0
  sub := (· - ·)
  neg := (- ·)
  less x y := x < y
  isFinite := Float.isFinite
  isUndefined := Float.isNaN
  closeness := 1e-15

namespace Measure

variable {α : Type} [Measure α]

/-- The second number if it is greater, else the first. -/
def later (x y : α) : α := if less x y then y else x

/-- The second number if it is less, else the first. -/
def earlier (x y : α) : α := if less y x then y else x

/-- The greater number; an undefined one if there is any. -/
def greater (x y : α) : α :=
  if isUndefined x then x else if isUndefined y then y else later x y

/-- The lesser number; an undefined one if there is any. -/
def lesser (x y : α) : α :=
  if isUndefined x then x else if isUndefined y then y else earlier x y

/-- The greatest number of a list; an undefined one if there is any. -/
def greatest : List α → α
  | [] => zero
  | x :: xs => xs.foldl greater x

/-- The limits are so close that they make an equality. -/
def areClose (lower upper : α) : Bool :=
  let gap := sub upper lower
  less gap closeness && less (neg closeness) gap

/-- How far a value lies below its limit; an infinite limit does not count. -/
def shortfall (lower value : α) : α := if isFinite lower then sub lower value else zero

/-- How far a value lies above its limit; an infinite limit does not count. -/
def excess (value upper : α) : α := if isFinite upper then sub value upper else zero

/-- How far the worst of some values lies outside its limits. -/
def violation (values lower upper : List α) : α :=
  if values.isEmpty then zero
  else
    let below := greatest (List.zipWith shortfall lower values)
    let above := greatest (List.zipWith excess values upper)
    later (later below above) zero

end Measure

end Extremum
