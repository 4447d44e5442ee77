import Extremum.Fault
import Extremum.Text.Blank
import Extremum.Text.DecimalDigit
import Extremum.Value.Coerce

/-!
# Floats that raw values stand for

A number stands for itself, a boolean for one or zero, and a text for the number written in it.
Other values stand for none. Unlike in settings, a numeral may have digits of any script, and single
underscores between them along with blanks around it.
-/

namespace Extremum.Value

/-- Takes out underscores, which may only stand between two digits. -/
def ungrouped? (afterDigit : Bool) : List Char → Option (List Char)
  | [] => some []
  | '_' :: rest =>
    if afterDigit ∧ (rest.head?.map Char.isDigit).getD false then ungrouped? false rest else none
  | c :: rest => (ungrouped? c.isDigit rest).map (c :: ·)

/-- The characters of a numeral: plain digits, no blanks around them, no underscores. -/
def numeral? (s : String) : Option (List Char) :=
  ungrouped? false (Text.trimBoth Text.isBlank (s.toList.map Text.plainDigit))

/-- The float that a value stands for. -/
def toFloat : Value → Except Fault Float
  | .bool b => .ok (if b then 1 else 0)
  | .int n => let x := Decimal.ofInt n; if x.isFinite then .ok x else .error .outsideFloat
  | .float x => .ok x
  | .text s =>
    match (numeral? s).bind Decimal.read? with
    | some x => .ok x
    | none => .error (.unreadableFloat s)
  | .null => .error (.notReal "NoneType")
  | .list _ => .error (.notReal "list")
  | .dict _ => .error (.notReal "dict")

end Extremum.Value
