import Extremum.Decimal.Digits

/-!
# Written floats

The two written forms of a float: `text`, the shortest form that reads back, and `scientific`,
with a fixed number of decimals.
-/

namespace Extremum.Decimal

/-- How the significant digits of a float are laid out. -/
structure Layout where
  /-- The least decimal exponent that is written positionally. -/
  leastPositional : Int
  /-- The first decimal exponent that is too large to be written positionally. -/
  leastLarge : Int
  /-- The least number of digits of a written exponent. -/
  exponentWidth : Nat

/-- Floats are positional from `0.0001` up to, and not including, `1e+16`. -/
def Layout.standard : Layout := ⟨-4, 16, 2⟩

/-- A written exponent: its sign, then at least `width` digits. -/
def exponentText (width : Nat) (e : Int) : String :=
  let digits := toString e.natAbs
  let padding := String.ofList (List.replicate (width - digits.length) '0')
  (if e < 0 then "-" else "+") ++ padding ++ digits

/-- Digits with a point after the first one, without a point if there is only one. -/
def pointed : List Char → String
  | [] => ""
  | [c] => String.ofList [c]
  | c :: rest => String.ofList (c :: '.' :: rest)

/-- The significant digits, without the zeros at their end. -/
def Digits.significant (d : Digits) : List Char :=
  ((toString d.coefficient).toList.reverse.dropWhile (· = '0')).reverse

def Digits.leading (d : Digits) : Int :=
  d.exponent + ((toString d.coefficient).length : Int) - 1

/-- Digits written by a layout; a positional form always has a digit on both sides of the point. -/
def Layout.write (layout : Layout) (d : Digits) : String :=
  let digits := d.significant
  let e := d.leading
  if e < layout.leastPositional ∨ layout.leastLarge ≤ e then
    pointed digits ++ "e" ++ exponentText layout.exponentWidth e
  else if e < 0 then
    "0." ++ String.ofList (List.replicate ((-e).toNat - 1) '0' ++ digits)
  else
    let whole := e.toNat + 1
    let filled := digits ++ List.replicate (whole - digits.length) '0'
    let fraction := filled.drop whole
    String.ofList (filled.take whole) ++ "." ++
      String.ofList (if fraction.isEmpty then ['0'] else fraction)

/-- A float with the fewest digits that read back; the sign of a NaN is not shown. -/
def text (x : Float) : String :=
  if x.isNaN then "nan"
  else
    let sign := if isNegative x then "-" else ""
    if x.isInf then sign ++ "inf"
    else if x == 0 then sign ++ "0.0"
    else sign ++ Layout.standard.write (shortest x)

/-- A float with one digit before the point and `places` digits after it. -/
def scientific (places : Nat) (x : Float) : String :=
  if x.isNaN then "nan"
  else
    let sign := if isNegative x then "-" else ""
    if x.isInf then sign ++ "inf"
    else if x == 0 then
      sign ++ pointed ('0' :: List.replicate places '0') ++ "e" ++ exponentText 2 0
    else
      let d := rounded x (places + 1)
      sign ++ pointed (toString d.coefficient).toList ++ "e" ++ exponentText 2 d.leading

end Extremum.Decimal
