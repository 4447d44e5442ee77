import Extremum.Fault
import Extremum.Value.Coerce

/-!
# Regions

A region is where the value of a function is required to lie. Its bounds are never NaN, the value of
an equality is finite, and the ends of an interval are in order.
-/

namespace Extremum

/-- A bound is a float other than NaN; it may be infinite. -/
structure Bound where
  value : Float
  isNumber : value.isNaN = false

/-- A set of reals, or of integers, that a function is constrained to. -/
inductive Region where
  | lessThan (upper : Bound)
  | greaterThan (lower : Bound)
  | equalTo (value : Bound) (finite : value.value.isFinite = true)
  | interval (lower upper : Bound) (ordered : ¬ upper.value < lower.value)
  /-- The numbers zero and one. -/
  | zeroOne
  /-- The integers. -/
  | integer

namespace Region

def kind : Region → Kind
  | lessThan _ => .lessThan
  | greaterThan _ => .greaterThan
  | equalTo _ _ => .equalTo
  | interval _ _ _ => .interval
  | zeroOne => .zeroOne
  | integer => .integer

def parameters : Region → List (String × Float)
  | lessThan upper => [("upper", upper.value)]
  | greaterThan lower => [("lower", lower.value)]
  | equalTo value _ => [("value", value.value)]
  | interval lower upper _ => [("lower", lower.value), ("upper", upper.value)]
  | zeroOne | integer => []

/-- A region as it stands in messages. -/
def text (r : Region) : String :=
  " ".intercalate (r.parameters.map fun p => p.1 ++ "=" ++ Decimal.text p.2)

/-- Regions are equal when their kinds are and their parameters are equal as numbers. -/
def agrees (r s : Region) : Bool :=
  r.kind == s.kind && r.parameters.map (·.2) == s.parameters.map (·.2)

/-! ## Regions from raw values -/

/-- The reason for refusing NaN as a parameter. -/
def nanReason (kind : Kind) (parameter : String) : String :=
  "The " ++ parameter ++ " of a " ++ kind.name ++ " set is NaN."

def bound (kind : Kind) (parameter : String) (x : Float) : Checked Bound :=
  if h : x.isNaN = false then .ok ⟨x, h⟩ else .error [.here (.rejected (nanReason kind parameter))]

/-- The parameter with a name, read from a raw value. -/
def parameter (name : String) (v : Value) : Checked Float :=
  (Checked.ofDefect (v.asFloat.map (·.1))).within (.name name)

/-- The region that holds the numbers up to `upper`. -/
def ofUpper (upper : Value) : Checked Region := do
  return lessThan (← bound .lessThan "upper" (← parameter "upper" upper))

/-- The region that holds the numbers from `lower` on. -/
def ofLower (lower : Value) : Checked Region := do
  return greaterThan (← bound .greaterThan "lower" (← parameter "lower" lower))

def ofValue (value : Value) : Checked Region := do
  let b ← bound .equalTo "value" (← parameter "value" value)
  if h : b.value.isFinite = true then return equalTo b h
  else .error [.here (.rejected "The value of an EqualTo set must be finite.")]

def ofEnds (lower upper : Value) : Checked Region := do
  let (l, u) ← Checked.both Prod.mk (parameter "lower" lower) (parameter "upper" upper)
  let l ← bound .interval "lower" l
  let u ← bound .interval "upper" u
  if h : ¬ u.value < l.value then return interval l u h
  else .error [.here (.rejected "The lower bound is larger than the upper bound.")]

/-- The region of a kind with the given parameters; no region has a function's kind. -/
def ofValues? (kind : Kind) (args : List Value) : Option (Checked Region) :=
  let arg := fun i => args[i]?.getD .null
  match kind with
  | .lessThan => some (ofUpper (arg 0))
  | .greaterThan => some (ofLower (arg 0))
  | .equalTo => some (ofValue (arg 0))
  | .interval => some (ofEnds (arg 0) (arg 1))
  | .zeroOne => some (.ok zeroOne)
  | .integer => some (.ok integer)
  | .single | .affine | .quadratic => none

/-! ## What a region says -/

/-- The least and the greatest number in a region; an open side is infinite. -/
def bounds : Region → Except Fault (Float × Float)
  | lessThan upper => .ok (-1.0 / 0.0, upper.value)
  | greaterThan lower => .ok (lower.value, 1.0 / 0.0)
  | equalTo value _ => .ok (value.value, value.value)
  | interval lower upper _ => .ok (lower.value, upper.value)
  | r => .error (.unsupportedRegion r.kind)

/-- The category of the variables in a region. -/
def category : Region → Except Fault Category
  | zeroOne => .ok .binary
  | integer => .ok .integer
  | r => .error (.unsupportedRegion r.kind)

end Region

end Extremum
