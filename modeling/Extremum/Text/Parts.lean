/-!
# Parts of texts
-/

namespace Extremum.Text

/-- The parts between the characters that satisfy `p`; there is always one part at least. -/
def parts (p : Char → Bool) : List Char → List (List Char)
  | [] => [[]]
  | c :: rest =>
    if p c then [] :: parts p rest
    else
      match parts p rest with
      | part :: others => (c :: part) :: others
      | [] => [[c]]

end Extremum.Text
