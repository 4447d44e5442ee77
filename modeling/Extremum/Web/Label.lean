import Extremum.Text.Direction
import Extremum.Text.Joining
import Extremum.Web.Folding

/-!
# Labels of domain names

A domain name consists of labels between points. A label must be in its folded form, it must not
start with a mark, an invisible joiner must have something to join, and if the name holds letters
written to the left, every label must have one direction.
-/

namespace Extremum.Web

open Text

/-- Invisible joiners: the one that joins and the one that keeps apart. -/
def joiner : Char := Char.ofNat 0x200D

/-- The invisible character that keeps letters apart. -/
def nonJoiner : Char := Char.ofNat 0x200C

/--
Every joiner in a label has its place: after a mark that joins consonants, or, if it keeps apart,
between letters that would join. `before` is what comes before, the nearest character first.
-/
def joinersFit (before : List Char) : List Char → Bool
  | [] => true
  | c :: rest =>
    let fits :=
      if c = joiner ∨ c = nonJoiner then
        (before.head?.any (markClass · = joinerClass)) ||
          (c == nonJoiner && (before.dropWhile isTransparent).head?.any joinsOnward &&
            (rest.dropWhile isTransparent).head?.any joinsBack)
      else true
    fits && joinersFit (c :: before) rest

/-- The directions in a label up to the last one that is not that of a mark. -/
def directions (label : List Char) : List WritingDirection :=
  ((label.map direction).reverse.dropWhile (· = .mark)).reverse

/-- A label has one direction: it is all rightward or all leftward, with digits of one kind. -/
def isUnidirectional (label : List Char) : Bool :=
  let ds := directions label
  match ds with
  | [] => label.isEmpty
  | .rightward :: _ =>
    !ds.contains .leftward && !ds.contains .arabicDigit &&
      [some .rightward, some .europeanDigit].contains ds.getLast?
  | .leftward :: _ =>
    !ds.contains .rightward && !(ds.contains .arabicDigit && ds.contains .europeanDigit) &&
      [some .leftward, some .europeanDigit, some .arabicDigit].contains ds.getLast?
  | _ => false

/-- The label holds characters for which its direction matters. -/
def needsDirection (label : List Char) : Bool :=
  label.any fun c => 128 ≤ c.toNat && [.leftward, .arabicDigit].contains (direction c)

/-- The label is well formed apart from its direction. -/
def isLabel (label : List Char) : Bool :=
  !label.head?.any isMark && joinersFit [] label

end Extremum.Web
