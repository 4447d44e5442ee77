/-!
# Reading numerals

`Decimal.read?` recognises the written form of a float: an optional sign, then digits with at most
one point and an optional exponent, or one of the words for infinity and NaN in any case. The
value is the float nearest to what is written.
-/

namespace Extremum.Decimal

/-- The value of a run of decimal digits, most significant first. -/
def digitsValue (digits : List Char) : Nat :=
  digits.foldl (fun n c => 10 * n + (c.toNat - '0'.toNat)) 0

/-- The longest prefix of decimal digits and what follows it. -/
def splitDigits (cs : List Char) : List Char × List Char :=
  (cs.takeWhile Char.isDigit, cs.dropWhile Char.isDigit)

/-- An optional sign: whether it is a minus, and what follows it. -/
def splitSign : List Char → Bool × List Char
  | '-' :: rest => (true, rest)
  | '+' :: rest => (false, rest)
  | rest => (false, rest)

/-- The exponent part that ends a numeral: nothing at all, or a marker and a signed integer. -/
def readExponent? : List Char → Option Int
  | [] => some 0
  | c :: rest =>
    if c = 'e' ∨ c = 'E' then
      let (negative, rest) := splitSign rest
      let (digits, rest) := splitDigits rest
      if digits.isEmpty ∨ ¬ rest.isEmpty then none
      else some (if negative then -(digitsValue digits : Int) else digitsValue digits)
    else none

/--
The float nearest to `c · 10 ^ e`. Exponents so large or small that the value overflows or
vanishes are settled by counting digits.
-/
def nearestFloat (c : Nat) (e : Int) : Float :=
  let leading := ((toString c).length : Int) + e
  if c = 0 then 0
  else if 400 < leading then 1.0 / 0.0
  else if leading < -400 then 0
  else if e < 0 then Float.ofScientific c true e.natAbs
  else Float.ofScientific c false e.natAbs

def ofInt (n : Int) : Float :=
  let magnitude := nearestFloat n.natAbs 0
  if n < 0 then -magnitude else magnitude

/-- Digits with at most one point and an optional exponent; a digit must be there. -/
def readUnsigned? (cs : List Char) : Option Float :=
  let (whole, rest) := splitDigits cs
  let (fraction, rest) :=
    match rest with
    | '.' :: rest => splitDigits rest
    | rest => ([], rest)
  if whole.isEmpty ∧ fraction.isEmpty then none
  else do
    let e ← readExponent? rest
    return nearestFloat (digitsValue (whole ++ fraction)) (e - fraction.length)

/-- A word for infinity or for NaN, in any case. -/
def readWord? (cs : List Char) : Option Float :=
  let word := String.ofList (cs.map Char.toLower)
  if word = "inf" ∨ word = "infinity" then some (1.0 / 0.0)
  else if word = "nan" then some (0.0 / 0.0)
  else none

def read? (cs : List Char) : Option Float :=
  let (negative, rest) := splitSign cs
  let magnitude := (readWord? rest).or (readUnsigned? rest)
  if negative then magnitude.map (-·) else magnitude

end Extremum.Decimal
