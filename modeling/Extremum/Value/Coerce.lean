import Extremum.Value.Issue
import Extremum.Decimal.Reading
import Extremum.Text.Blank

/-!
# Scalars read from raw values

Numbers, integers, booleans and texts are read leniently: a numeral in a text counts as a number, a
boolean as one or zero. How far a value was from what was asked for is its exactness, by which
the members of a union are compared.
-/

namespace Extremum

/-- How well a raw value matches what was asked for. -/
inductive Exactness where
  /-- The value had to be converted. -/
  | lax
  /-- The value is of another kind that loses nothing. -/
  | strict
  /-- The value is of the kind asked for. -/
  | exact
deriving DecidableEq, Repr

namespace Exactness

/-- The order of exactness as a number. -/
def rank : Exactness → Nat
  | lax => 0
  | strict => 1
  | exact => 2

def meet (a b : Exactness) : Exactness := if a.rank ≤ b.rank then a else b

end Exactness

/-- A value read from a raw one, with its exactness. -/
abbrev Match (α : Type) := Except Defect (α × Exactness)

namespace Value

/-! ## Texts that hold numbers -/

/-- Single underscores between other characters are taken out; no others are allowed. -/
def withoutUnderscores? (cs : List Char) : Option (List Char) :=
  let doubled := (cs.zip (cs.drop 1)).any fun p => p.1 = '_' ∧ p.2 = '_'
  if cs.head? = some '_' ∨ cs.getLast? = some '_' ∨ doubled then none
  else some (cs.filter (· ≠ '_'))

/-- The float written in a text, with blanks around it or underscores in it, but not both. -/
def floatInText? (s : String) : Option Float :=
  (Decimal.read? (Text.trimBoth Text.isBlank s.toList)).or
    ((withoutUnderscores? s.toList).bind Decimal.read?)

/-- The greatest number of digits of an integer in a text. -/
def digitLimit : Nat := 4300

/-- A minus at the front, and what follows it. -/
def splitMinus : List Char → Bool × List Char
  | '-' :: rest => (true, rest)
  | rest => (false, rest)

/-- The text starts with an integer of too many digits. -/
def isOversized (cs : List Char) : Bool :=
  let digits := (splitMinus cs).2.takeWhile Char.isDigit
  digits.head? != some '0' && decide (digitLimit < digits.length)

/-- What follows the leading zeros of a numeral; `last` is the zero or underscore read last. -/
def dropZerosAfter (last : Char) : List Char → Option (List Char)
  | [] => some [last]
  | c :: rest =>
    if c = '0' ∨ c = '_' then dropZerosAfter c rest
    else if c.isDigit ∨ c = '-' then some (c :: rest)
    else if c = '.' then some (last :: c :: rest)
    else none

/-- A numeral without leading zeros. It starts with a digit; a minus may follow the zeros. -/
def dropLeadingZeros : List Char → Option (List Char)
  | [] => none
  | c :: rest =>
    if c = '0' then dropZerosAfter c rest else if c.isDigit then some (c :: rest) else none

/-- A numeral without a fraction of zeros. -/
def dropZeroFraction (cs : List Char) : List Char :=
  match cs.dropWhile (· ≠ '.') with
  | '.' :: '0' :: zeros => if zeros.all (· = '0') then cs.takeWhile (· ≠ '.') else cs
  | _ => cs

/-- An integer in its plain form: a minus or nothing, then digits without leading zeros. -/
def plainInteger? (cs : List Char) : Option Int :=
  let (negative, digits) := splitMinus cs
  if digits.isEmpty ∨ ¬ digits.all Char.isDigit ∨ digitLimit < digits.length then none
  else if digits.head? = some '0' ∧ 1 < digits.length then none
  else some (if negative then -(Decimal.digitsValue digits : Int) else Decimal.digitsValue digits)

/-- The integer written in a text: blanks around it, a plus, leading zeros and `.0` are allowed. -/
def lenientInteger? (cs : List Char) : Option Int := do
  let unsigned ←
    match Text.trimBoth Text.isBlank cs with
    | '+' :: rest => if rest.head? = some '-' then none else some rest
    | rest => some rest
  let (negative, digits) := splitMinus unsigned
  let digits := dropZeroFraction (← dropLeadingZeros digits)
  let digits := (withoutUnderscores? digits).getD digits
  plainInteger? (if negative then '-' :: digits else digits)

def intInText (s : String) : Except Defect Int :=
  if isOversized s.toList then .error .oversizedInteger
  else
    match lenientInteger? s.toList with
    | some n => .ok n
    | none => .error .unreadableInteger

/-- The boolean written in a text, in any case. -/
def boolInText? (s : String) : Option Bool :=
  let word := String.ofList (s.toList.map Char.toLower)
  if ["0", "off", "f", "false", "n", "no"].contains word then some false
  else if ["1", "on", "t", "true", "y", "yes"].contains word then some true
  else none

/-! ## Scalars -/

/-- The integer equal to a finite float without a fractional part. -/
def integralPart (x : Float) : Int :=
  let b := Decimal.Binary.ofFloat x
  let magnitude := b.significand * Nat.pow 2 b.exponent.toNat / Nat.pow 2 (-b.exponent).toNat
  if Decimal.isNegative x then -(magnitude : Int) else magnitude

/-- The first integer that is too large for a machine word of 64 bits. -/
def wordLimit : Int := 0x8000000000000000

/-- A float as an integer of at most 64 bits. -/
def intOfFloat (x : Float) : Except Defect Int :=
  if ¬ x.isFinite then .error .notFinite
  else if x.floor != x then .error .fractional
  else
    let n := integralPart x
    if -wordLimit < n ∧ n < wordLimit then .ok n else .error .oversizedInteger

def asFloat : Value → Match Float
  | .float x => .ok (x, .exact)
  | .int n =>
    let x := Decimal.ofInt n
    if x.isFinite then .ok (x, .strict) else .error .notNumber
  | .bool b => .ok (if b then 1 else 0, .lax)
  | .text s =>
    match floatInText? s with
    | some x => .ok (x, .lax)
    | none => .error .unreadableNumber
  | _ => .error .notNumber

def asInt : Value → Match Int
  | .int n => .ok (n, .exact)
  | .bool b => .ok (if b then 1 else 0, .lax)
  | .float x => (intOfFloat x).map (·, .lax)
  | .text s => (intInText s).map (·, .lax)
  | _ => .error .notInteger

def boolOfInt (n : Int) : Match Bool :=
  if n = 0 then .ok (false, .lax)
  else if n = 1 then .ok (true, .lax)
  else .error .unreadableBoolean

def asBool : Value → Match Bool
  | .bool b => .ok (b, .exact)
  | .text s =>
    match boolInText? s with
    | some b => .ok (b, .lax)
    | none => .error .unreadableBoolean
  | .int n => if -wordLimit ≤ n ∧ n < wordLimit then boolOfInt n else .error .notBoolean
  | .float x =>
    match intOfFloat x with
    | .ok n => boolOfInt n
    | .error _ => .error .notBoolean
  | _ => .error .notBoolean

def asText : Value → Match String
  | .text s => .ok (s, .exact)
  | _ => .error .notText

def asCount (v : Value) : Except Defect Nat := do
  let (n, _) ← v.asInt
  if n < 0 then .error .negative else .ok n.toNat

def asPositive (v : Value) : Except Defect Float := do
  let (x, _) ← v.asFloat
  if 0 < x then .ok x else .error .notPositive

end Value

end Extremum
