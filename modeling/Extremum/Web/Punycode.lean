/-!
# Punycode

A label of a domain name with characters beyond ASCII is written in ASCII: its ASCII characters, a
hyphen, and then the other characters as a run of distances. A distance is a number of variable
length in base 36, whose thresholds adapt to the distances before it.
-/

namespace Extremum.Web

/-- The digit with a value below 36. -/
def punycodeDigit (d : Nat) : Char :=
  if d < 26 then Char.ofNat ('a'.toNat + d) else Char.ofNat ('0'.toNat + (d - 26))

/-- The threshold of the digit at a place, counted in steps of 36. -/
def punycodeThreshold (place bias : Nat) : Nat :=
  if place ≤ bias then 1 else if bias + 26 ≤ place then 26 else place - bias

/-- The digits of a distance, from a place on. -/
def distanceDigits (fuel bias place distance : Nat) : List Char :=
  match fuel with
  | 0 => []
  | fuel + 1 =>
    let t := punycodeThreshold place bias
    if distance < t then [punycodeDigit distance]
    else
      punycodeDigit (t + (distance - t) % (36 - t)) ::
        distanceDigits fuel bias (place + 36) ((distance - t) / (36 - t))

/-- Divides by 35 until at most 455 is left, and counts the divisions in steps of 36. -/
def scaledDown (fuel delta place : Nat) : Nat × Nat :=
  match fuel with
  | 0 => (delta, place)
  | fuel + 1 => if 455 < delta then scaledDown fuel (delta / 35) (place + 36) else (delta, place)

/-- The bias after a distance; `points` characters have been written by then. -/
def adaptedBias (delta points : Nat) (first : Bool) : Nat :=
  let delta := if first then delta / 700 else delta / 2
  let delta := delta + delta / points
  let (rest, place) := scaledDown delta delta 0
  place + 36 * rest / (rest + 38)

/-- What is known while a label is written. -/
structure PunycodeState where
  written : List Char
  delta : Nat
  bias : Nat
  points : Nat

/-- Takes account of one character of the label; `least` is the character written in this round. -/
def PunycodeState.visit (basics least : Nat) (s : PunycodeState) (c : Nat) : PunycodeState :=
  if c < least then { s with delta := s.delta + 1 }
  else if c = least then
    { written := s.written ++ distanceDigits (s.delta + 1) s.bias 36 s.delta
      delta := 0
      bias := adaptedBias s.delta (s.points + 1) (s.points == basics)
      points := s.points + 1 }
  else s

/-- One round for each distinct character beyond ASCII, in increasing order. -/
def punycodeRounds (label : List Nat) (basics : Nat) (reached : Nat) (s : PunycodeState) :
    List Nat → PunycodeState
  | [] => s
  | least :: rest =>
    let s := { s with delta := s.delta + (least - reached) * (s.points + 1) }
    let s := label.foldl (PunycodeState.visit basics least) s
    punycodeRounds label basics (least + 1) { s with delta := s.delta + 1 } rest

/-- The ASCII writing of a label: its ASCII characters, then the distances of all others. -/
def asciiLabel (label : List Char) : List Char :=
  let basic := label.filter (·.toNat < 128)
  let codes := label.map Char.toNat
  let others := ((codes.filter (128 ≤ ·)).mergeSort (· ≤ ·)).eraseReps
  let start : PunycodeState :=
    ⟨if basic.isEmpty then [] else basic ++ ['-'], 0, 72, basic.length⟩
  (punycodeRounds codes basic.length 128 start others).written

/-! ## Reading -/

def punycodeValue? (c : Char) : Option Nat :=
  if 'a' ≤ c ∧ c ≤ 'z' then some (c.toNat - 'a'.toNat)
  else if c.isDigit then some (c.toNat - '0'.toNat + 26)
  else none

/-- The distance at the front of a writing, added to `sum`, and what follows it. -/
def readDistance? (bias place weight sum : Nat) : List Char → Option (Nat × List Char)
  | [] => none
  | c :: rest => do
    let d ← punycodeValue? c
    let t := punycodeThreshold place bias
    if d < t then some (sum + d * weight, rest)
    else readDistance? bias (place + 36) (weight * (36 - t)) (sum + d * weight) rest

/-- Reads distances and inserts a character for each of them into a label. A distance leads from the
character `code`, about to be inserted at `index`, to the next one. -/
def insertAll? (fuel bias code index : Nat) (label : List Char) (cs : List Char) :
    Option (List Char) :=
  match fuel, cs with
  | _, [] => some label
  | 0, _ => none
  | fuel + 1, cs => do
    let (sum, rest) ← readDistance? bias 36 1 index cs
    let size := label.length + 1
    let next := code + sum / size
    let c := Char.ofNat next
    if c.toNat ≠ next then none
    insertAll? fuel (adaptedBias (sum - index) size (index == 0)) next (sum % size + 1)
      (label.insertIdx (sum % size) c) rest

/-- The label with the given ASCII writing. -/
def unicodeLabel? (writing : List Char) : Option (List Char) :=
  let reversed := writing.reverse
  match reversed.dropWhile (· ≠ '-') with
  | '-' :: c :: basic =>
    let distances := (reversed.takeWhile (· ≠ '-')).reverse
    insertAll? distances.length 72 128 0 (c :: basic).reverse distances
  | _ => insertAll? writing.length 72 128 0 [] writing

end Extremum.Web
