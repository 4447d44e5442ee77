import Extremum.Text.Hexadecimal

/-!
# Percent signs

Characters that may not stand in some part of an address are written as percent signs and
hexadecimal digits, one for each byte.
-/

namespace Extremum.Web

/-- Characters that are never written as such. -/
def isControl (c : Char) : Bool := c.toNat < 0x20 || 0x7F ≤ c.toNat

/-- Characters that are not written as such in a fragment. -/
def escapedInFragment (c : Char) : Bool := isControl c || " \"<>\x60".toList.contains c

/-- Characters that are not written as such in a query. -/
def escapedInQuery (c : Char) : Bool := isControl c || " \"#<>\x27".toList.contains c

/-- Characters that are not written as such in a path. -/
def escapedInPath (c : Char) : Bool := escapedInFragment c || "#?\x7b\x7d".toList.contains c

/-- Characters that are not written as such in a user name. -/
def escapedInUser (c : Char) : Bool := escapedInPath c || "/:;=@[\\]^|".toList.contains c

/-- The bytes of a character as percent signs and hexadecimal digits. -/
def percentForm (c : Char) : List Char :=
  (String.singleton c).toUTF8.toList.flatMap fun b =>
    '%' :: (Text.hex 2 b.toNat).map Char.toUpper

/-- Characters in writing, those that satisfy `p` in percent form. -/
def written (p : Char → Bool) (cs : List Char) : List Char :=
  cs.flatMap fun c => if p c then percentForm c else [c]

/-- The bytes of a text, with percent forms replaced by the bytes they stand for. -/
def unescapedBytes : List Char → List UInt8
  | [] => []
  | '%' :: a :: b :: rest =>
    match Text.hexValue? a, Text.hexValue? b with
    | some x, some y => UInt8.ofNat (16 * x + y) :: unescapedBytes rest
    | _, _ => 37 :: unescapedBytes (a :: b :: rest)
  | c :: rest => (String.singleton c).toUTF8.toList ++ unescapedBytes rest

end Extremum.Web
