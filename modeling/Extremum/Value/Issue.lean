import Extremum.Value.Basic

/-!
# Issues found in raw values

An issue says what is wrong with a raw value and where in it. Its code names the kind of issue.
-/

namespace Extremum

/-- What is wrong with a raw value. -/
inductive Defect where
  | notNumber
  | unreadableNumber
  | notInteger
  | unreadableInteger
  | oversizedInteger
  | fractional
  | notFinite
  | notPositive
  | negative
  | notBoolean
  | unreadableBoolean
  | notText
  | tooShort
  | notDictionary
  | notRecord (name : String)
  | missing
  | unexpected
  | notAmong (choices : List Value)
  | notTuple
  | tooLong (limit size : Nat)
  | notArray
  | notUrl
  | overlongUrl
  | unreadableUrl (reason : String)
  | urlScheme
  /-- A rule about the value as a whole is broken. -/
  | rejected (reason : String)

namespace Defect

/-- The name of the kind of defect. -/
def code : Defect → String
  | notNumber => "float_type"
  | unreadableNumber => "float_parsing"
  | notInteger => "int_type"
  | unreadableInteger => "int_parsing"
  | oversizedInteger => "int_parsing_size"
  | fractional => "int_from_float"
  | notFinite => "finite_number"
  | notPositive => "greater_than"
  | negative => "greater_than_equal"
  | notBoolean => "bool_type"
  | unreadableBoolean => "bool_parsing"
  | notText => "string_type"
  | tooShort => "string_too_short"
  | notDictionary => "dict_type"
  | notRecord _ => "model_type"
  | missing => "missing"
  | unexpected => "extra_forbidden"
  | notAmong _ => "literal_error"
  | notTuple => "tuple_type"
  | tooLong _ _ => "too_long"
  | notArray => "is_instance_of"
  | notUrl => "url_type"
  | overlongUrl => "url_too_long"
  | unreadableUrl _ => "url_parsing"
  | urlScheme => "url_scheme"
  | rejected _ => "value_error"

/-- Alternatives in words: separated by commas, the last one by "or". -/
def alternatives (choices : List String) : String :=
  match choices.reverse with
  | [] => ""
  | [only] => only
  | last :: others => ", ".intercalate others.reverse ++ " or " ++ last

def message : Defect → String
  | notNumber => "Input should be a valid number"
  | unreadableNumber => "Input should be a valid number, unable to parse string as a number"
  | notInteger => "Input should be a valid integer"
  | unreadableInteger => "Input should be a valid integer, unable to parse string as an integer"
  | oversizedInteger => "Unable to parse input string as an integer, exceeded maximum size"
  | fractional => "Input should be a valid integer, got a number with a fractional part"
  | notFinite => "Input should be a finite number"
  | notPositive => "Input should be greater than 0"
  | negative => "Input should be greater than or equal to 0"
  | notBoolean => "Input should be a valid boolean"
  | unreadableBoolean => "Input should be a valid boolean, unable to interpret input"
  | notText => "Input should be a valid string"
  | tooShort => "String should have at least 1 character"
  | notDictionary => "Input should be a valid dictionary"
  | notRecord name => "Input should be a valid dictionary or instance of " ++ name
  | missing => "Field required"
  | unexpected => "Extra inputs are not permitted"
  | notAmong choices => "Input should be " ++ alternatives (choices.map Value.literal)
  | notTuple => "Input should be a valid tuple"
  | tooLong limit size =>
    "Tuple should have at most " ++ toString limit ++ (if limit = 1 then " item" else " items") ++
      " after validation, not " ++ toString size
  | notArray => "Input should be an instance of ndarray"
  | notUrl => "URL input should be a string or URL"
  | overlongUrl => "URL should have at most 2083 characters"
  | unreadableUrl reason => "Input should be a valid URL, " ++ reason
  | urlScheme => "URL scheme should be 'http' or 'https'"
  | rejected reason => "Value error, " ++ reason

end Defect

/-- One step of the way to a part of a raw value. -/
inductive Place where
  | name (s : String)
  | index (n : Nat)
deriving DecidableEq

/-- A defect and the way to the part that has it. -/
structure Issue where
  place : List Place
  defect : Defect

namespace Issue

def here (defect : Defect) : Issue := ⟨[], defect⟩

/-- The same issue seen from outside, one step further away. -/
def within (step : Place) (issue : Issue) : Issue := { issue with place := step :: issue.place }

end Issue

/-- What a raw value was found to be, or every issue found in it. -/
abbrev Checked (α : Type) := Except (List Issue) α

namespace Checked

/-- A result whose only possible issue is a defect of the value itself. -/
def ofDefect {α : Type} : Except Defect α → Checked α
  | .ok a => .ok a
  | .error d => .error [.here d]

/-- The same result seen from outside, one step further away. -/
def within {α : Type} (step : Place) : Checked α → Checked α
  | .ok a => .ok a
  | .error issues => .error (issues.map (·.within step))

def issues {α : Type} : Checked α → List Issue
  | .ok _ => []
  | .error issues => issues

/-- Two results together, with the issues of both. -/
def both {α β γ : Type} (f : α → β → γ) : Checked α → Checked β → Checked γ
  | .ok a, .ok b => .ok (f a b)
  | .ok _, .error issues => .error issues
  | .error issues, .ok _ => .error issues
  | .error first, .error second => .error (first ++ second)

/-- A function and its argument together, with the issues of both. -/
def apply {α β : Type} (f : Checked (α → β)) (a : Checked α) : Checked β :=
  both (fun g x => g x) f a

/-- The first result, with the issues of both. -/
def andAlso {α β : Type} (a : Checked α) (b : Checked β) : Checked α := both (fun x _ => x) a b

/-- All results together, with the issues of all. -/
def all {α : Type} (results : List (Checked α)) : Checked (List α) :=
  results.foldr (both List.cons) (.ok [])

end Checked

end Extremum
