import Extremum.Text.Parts
import Extremum.Web.Label
import Extremum.Web.Punycode

/-!
# Domain names

A domain name is folded, and its labels with characters beyond ASCII are written in ASCII. A label
that is already in ASCII writing must stand for a label in folded form.
-/

namespace Extremum.Web

/-- What a label in ASCII writing starts with. -/
def asciiMark : List Char := "xn--".toList

/-- The greatest length of a label with characters beyond ASCII. -/
def labelLimit : Nat := 1000

/-- The greatest length of what follows the mark of a label in ASCII writing. -/
def asciiLimit : Nat := 2000

/-- The label that a folded one stands for: itself, unless it is in ASCII writing. -/
def readLabel? (label : List Char) : Option (List Char) :=
  if label.take asciiMark.length = asciiMark then do
    let writing := label.drop asciiMark.length
    if asciiLimit < writing.length then none
    let read ← unicodeLabel? writing
    if read.all (·.toNat < 128) ∨ read.contains '.' ∨ fold? read ≠ some read then none
    else some read
  else some label

/-- A folded label in ASCII. A label of ASCII characters stays as it is. -/
def asciiForm? (label : List Char) : Option (List Char) :=
  if label.all (·.toNat < 128) then some label
  else if labelLimit < label.length then none
  else some (asciiMark ++ asciiLabel label)

def forbiddenInDomain (c : Char) : Bool :=
  c.toNat ≤ 0x20 || c.toNat = 0x7F || "#%/:<>?@[\\]^|".toList.contains c

/-- A domain name in ASCII, if it is well formed. -/
def asciiDomain? (name : List Char) : Option (List Char) := do
  let folded ← fold? name
  let labels := Text.parts (· = '.') folded
  let read ← labels.mapM readLabel?
  if ¬ read.all isLabel then none
  if read.any needsDirection ∧ ¬ read.all isUnidirectional then none
  let written ← labels.mapM asciiForm?
  let domain := (written.intersperse ['.']).flatten
  if domain.any forbiddenInDomain then none else some domain

end Extremum.Web
