/-!
# Decimal digits of binary floats

A finite float is an integer times a power of two. This module names its significant decimal
digits in two ways: the fewest digits that still read back as the same float (`shortest`), and a
fixed number of correctly rounded digits (`rounded`). Both work on exact integers.
-/

namespace Extremum.Decimal

/-- The value `significand · 2 ^ exponent`. -/
structure Binary where
  significand : Nat
  exponent : Int
deriving DecidableEq, Repr

/-- The magnitude of a finite float, read off its bit pattern. -/
def Binary.ofFloat (x : Float) : Binary :=
  let bits := x.toBits.toNat
  let fraction : Nat := bits % Nat.pow 2 52
  let biased : Nat := bits / Nat.pow 2 52 % Nat.pow 2 11
  if biased = 0 then ⟨fraction, -1074⟩ else ⟨fraction + Nat.pow 2 52, (biased : Int) - 1075⟩

/-- The bit pattern has its sign bit set. -/
def isNegative (x : Float) : Bool :=
  decide (Nat.pow 2 63 ≤ x.toBits.toNat)

/-- The decimal value `coefficient · 10 ^ exponent`. -/
structure Digits where
  coefficient : Nat
  exponent : Int
deriving DecidableEq, Repr

/-- Numerator and denominator of `c · 2 ^ q / 10 ^ k`. -/
def scaled (c : Nat) (q k : Int) : Nat × Nat :=
  (c * Nat.pow 2 q.toNat * Nat.pow 10 (-k).toNat, Nat.pow 2 (-q).toNat * Nat.pow 10 k.toNat)

/-- The exponent `e` with `10 ^ e ≤ b < 10 ^ (e + 1)`, for a positive `b`. -/
def Binary.magnitude (b : Binary) : Int :=
  let estimate := ((b.significand.log2 : Int) + b.exponent) * 30103 / 100000
  let reached := fun e => let (n, d) := scaled b.significand b.exponent e; decide (d ≤ n)
  if reached (estimate + 1) then estimate + 1
  else if reached estimate then estimate
  else if reached (estimate - 1) then estimate - 1
  else estimate - 2

/-- The quotient rounded to the nearest integer, a half to the even one. -/
def roundDiv (n d : Nat) : Nat :=
  let q := n / d
  let r := n % d
  if 2 * r < d then q else if d < 2 * r then q + 1 else if q % 2 = 0 then q else q + 1

/--
The ends of the interval of reals that read back as `b`, in units of `2 ^ (b.exponent - 2)`. Below
a power of two the neighbour is only half as far away.
-/
def Binary.ends (b : Binary) : Nat × Nat :=
  let c := 4 * b.significand
  (if b.significand = Nat.pow 2 52 ∧ -1074 < b.exponent then c - 1 else c - 2, c + 2)

/-- The number `d · 10 ^ k` reads back as `b`; at the ends this needs an even significand. -/
def Binary.readsBack (b : Binary) (d : Nat) (k : Int) : Bool :=
  let (low, high) := b.ends
  let (lowN, den) := scaled low (b.exponent - 2) k
  let (highN, _) := scaled high (b.exponent - 2) k
  if b.significand % 2 = 0 then decide (lowN ≤ d * den ∧ d * den ≤ highN)
  else decide (lowN < d * den ∧ d * den < highN)

/-- The point of the grid `10 ^ k` next to `b` that reads back as `b`, the nearer one of two. -/
def Binary.onGrid? (b : Binary) (k : Int) : Option Digits :=
  let (n, d) := scaled b.significand b.exponent k
  let near := roundDiv n d
  let far := if near = n / d then near + 1 else n / d
  if b.readsBack near k then some ⟨near, k⟩
  else if b.readsBack far k then some ⟨far, k⟩
  else none

/-- Tries one digit, two digits, and so on; seventeen digits always read back. -/
def Binary.search (b : Binary) (magnitude : Int) : Nat → Nat → Digits
  | 0, count =>
    let k := magnitude - count + 1
    let (n, d) := scaled b.significand b.exponent k
    ⟨roundDiv n d, k⟩
  | fuel + 1, count =>
    match b.onGrid? (magnitude - count + 1) with
    | some digits => digits
    | none => b.search magnitude fuel (count + 1)

/-- The fewest digits that read back as `x`, and of those the nearest; for finite nonzero `x`. -/
def shortest (x : Float) : Digits :=
  let b := Binary.ofFloat x
  b.search b.magnitude 16 1

/-- Exactly `count` digits of `x`, correctly rounded; for finite nonzero `x`. -/
def rounded (x : Float) (count : Nat) : Digits :=
  let b := Binary.ofFloat x
  let k := b.magnitude - count + 1
  let (n, d) := scaled b.significand b.exponent k
  let c := roundDiv n d
  if c = Nat.pow 10 count then ⟨Nat.pow 10 (count - 1), k + 1⟩ else ⟨c, k⟩

end Extremum.Decimal
