import Extremum.Grid.Basic
import Extremum.Value.Real

/-!
# Grids from nested lists

A raw value becomes a grid when its lists are nested regularly: all lists of one level have the same
length, and all other values stand at the same level. First the shape is found, then the entries are
converted in order.
-/

namespace Extremum.Grid

/-! ## Finding the shape -/

/-- What is known of the shape of nested lists after some of their parts have been seen. -/
structure Outline where
  /-- The length of the lists of each level. -/
  lengths : List Nat
  /-- The number of levels that the grid can have. -/
  depth : Nat
  /-- An entry or an empty list has been met, so the lengths are final. -/
  settled : Bool
  /-- The parts do not fit together. -/
  irregular : Bool

def depthLimit : Nat := 64

def Outline.initial : Outline := ⟨[], depthLimit, false, false⟩

def Outline.entry (o : Outline) (level : Nat) : Outline :=
  if o.depth = level then { o with settled := true }
  else { o with depth := level, settled := true, irregular := o.irregular || o.settled }

/-- A list of some length starts at a level; the flag tells whether it fits. -/
def Outline.enter (o : Outline) (level length : Nat) : Outline × Bool :=
  if o.depth ≤ level then ({ o with irregular := true }, false)
  else if ¬ o.settled then ({ o with lengths := o.lengths ++ [length] }, true)
  else if o.lengths[level]? = some length then (o, true)
  else ({ o with depth := level, irregular := true }, false)

mutual

/-- The outline after a value at a level has been seen. -/
def outline (level : Nat) (o : Outline) : Value → Outline
  | .list items =>
    let (entered, fits) := o.enter level items.length
    if ¬ fits then entered
    else if items.isEmpty then { entered with depth := level + 1, settled := true }
    else outlines (level + 1) entered items
  | _ => o.entry level

/-- The outline after several values at a level have been seen. -/
def outlines (level : Nat) (o : Outline) : List Value → Outline
  | [] => o
  | v :: rest => outlines level (outline level o v) rest

end

def shapeOf (v : Value) : Except Fault (List Nat) :=
  let o := outline 0 .initial v
  let shape := o.lengths.take o.depth
  if ¬ o.irregular then .ok shape
  else if o.depth = depthLimit then .error (.tooDeep depthLimit)
  else .error (.ragged shape)

mutual

/-- The values in nested lists, in order. -/
def leaves : Value → List Value
  | .list items => leavesAll items
  | v => [v]

/-- The values in several nested lists, in order. -/
def leavesAll : List Value → List Value
  | [] => []
  | v :: rest => leaves v ++ leavesAll rest

end

/-! ## Converting entries -/

/-- An entry as a float; nothing counts as NaN. -/
def realEntry : Value → Except Fault Float
  | .null => .ok (0.0 / 0.0)
  | v => v.toFloat

/--
A text as an integer. Too many digits are found before what follows them is looked at.
-/
def integerEntry (s : String) : Except Fault Int :=
  let cs := Text.trimBoth Text.isBlank (s.toList.map Text.plainDigit)
  let (negative, cs) := Decimal.splitSign cs
  let run := cs.takeWhile fun c => c.isDigit || c = '_'
  match Value.ungrouped? false run with
  | none => .error (.unreadableInt s)
  | some digits =>
    if Value.digitLimit < digits.length then .error (.overlongInt Value.digitLimit digits.length)
    else if digits.isEmpty ∨ run.length < cs.length then .error (.unreadableInt s)
    else .ok (if negative then -(Decimal.digitsValue digits : Int) else Decimal.digitsValue digits)

/-- An integer as a byte. It has to fit into a machine word in the first place. -/
def byteOfInt (n : Int) : Except Fault Nat :=
  if n < -Value.wordLimit ∨ Value.wordLimit ≤ n then .error .outsideWord
  else if 0 ≤ n ∧ n ≤ 255 then .ok n.toNat
  else .error (.outsideByte n)

/-- An entry as a byte; floats are cut off. -/
def byteEntry : Value → Except Fault Nat
  | .null => .error (.notIntegral "NoneType")
  | .bool b => .ok (if b then 1 else 0)
  | .int n => byteOfInt n
  | .float x =>
    if x.isNaN then .error .nanAsInt
    else if x.isInf then .error .infinityAsInt
    else byteOfInt (Value.integralPart x)
  | .text s => integerEntry s >>= byteOfInt
  | .list _ | .dict _ => .error (.notIntegral "dict")

/-- The grid of a raw value, each entry converted by `entry`. A single value has no dimension. -/
def ofNested {α : Type} (entry : Value → Except Fault α) (v : Value) : Except Fault (Grid α) := do
  let shape ← shapeOf v
  let entries ← (leaves v).mapM entry
  if h : entries.length = cellCount shape then return ⟨shape, entries, h⟩
  else throw (.ragged shape)

/-- The grid of a raw value with at least one dimension. -/
def ofValue {α : Type} (entry : Value → Except Fault α) (v : Value) : Except Fault (Grid α) :=
  return (← ofNested entry v).atLeastOne

end Extremum.Grid
