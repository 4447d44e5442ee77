import Extremum.Text.Hexadecimal
import Extremum.Text.Parts

/-!
# Tables of characters

A property of characters is a list of closed ranges of their codes. Long tables are kept in writing:
rows are separated by blanks and line breaks, and the hexadecimal codes in a row by hyphens.
-/

namespace Extremum.Text

/-- The number that hexadecimal digits denote; other characters count as zeros. -/
def hexNumber (digits : List Char) : Nat :=
  digits.foldl (fun n c => 16 * n + (hexValue? c).getD 0) 0

/-- The rows of a table in writing. -/
def rows (table : String) : List (List Nat) :=
  ((parts (fun c => c = ' ' ∨ c = '\n') table.toList).filter (!·.isEmpty)).map fun row =>
    (parts (· = '-') row).map hexNumber

/-- The ranges of a table in writing; a row with one code is a range of one character. -/
def ranges (table : String) : List (Nat × Nat) :=
  (rows table).filterMap fun
    | [only] => some (only, only)
    | first :: last :: _ => some (first, last)
    | [] => none

/-- Membership in a list of closed ranges. -/
def inRanges (ranges : List (Nat × Nat)) (c : Char) : Bool :=
  ranges.any fun r => r.1 ≤ c.toNat && c.toNat ≤ r.2

end Extremum.Text
