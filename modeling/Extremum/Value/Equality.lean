import Extremum.Value.Coerce

/-!
# Equality of raw values

Two raw values may agree though their types differ: booleans count as one and zero, and an integer
agrees with a float of the same value. NaN agrees with nothing.
-/

namespace Extremum.Value

/-- The value is no list and no dictionary. -/
def isScalar : Value → Bool
  | list _ | dict _ => false
  | _ => true

/-- The value is a boolean, an integer or a text. -/
def isDiscrete : Value → Bool
  | bool _ | int _ | text _ => true
  | _ => false

def asExactInt? : Value → Option Int
  | bool b => some (if b then 1 else 0)
  | int n => some n
  | float x => if x.isFinite && x.floor == x then some (integralPart x) else none
  | _ => none

def agreesAsNumber (v w : Value) : Bool :=
  match v, w with
  | float x, float y => x == y
  | v, w => v.asExactInt?.isSome && v.asExactInt? == w.asExactInt?

mutual

/-- Two values are equal, whatever their types. -/
def agrees : Value → Value → Bool
  | null, null => true
  | text a, text b => a == b
  | list vs, list ws => allAgree vs ws
  | dict es, dict fs => es.length == fs.length && entriesAgree es fs
  | v, w => agreesAsNumber v w

/-- Two lists are equal item by item. -/
def allAgree : List Value → List Value → Bool
  | [], [] => true
  | v :: vs, w :: ws => agrees v w && allAgree vs ws
  | _, _ => false

def entriesAgree : List (String × Value) → List (String × Value) → Bool
  | [], _ => true
  | (name, v) :: rest, fs => (fs.lookup name).any (agrees v) && entriesAgree rest fs

end

end Extremum.Value
