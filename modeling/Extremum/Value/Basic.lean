import Extremum.Decimal.Text
import Extremum.Text.Quoted

/-!
# Raw values

The values that callers hand over before anything is known about their form: settings, options,
arguments of regions and fields of problems. Integers and floats are kept apart.
-/

namespace Extremum

/-- A raw value. -/
inductive Value where
  | null
  | bool (b : Bool)
  | int (n : Int)
  | float (x : Float)
  | text (s : String)
  | list (items : List Value)
  | dict (entries : List (String × Value))
deriving Inhabited

namespace Value

/-- The entry of a dictionary under a name. -/
def field? (name : String) : Value → Option Value
  | dict entries => (entries.find? (·.1 = name)).map (·.2)
  | _ => none

/-- Zero, nothing, and empty texts and collections count as false. -/
def isTruthy : Value → Bool
  | null => false
  | bool b => b
  | int n => n != 0
  | float x => x != 0
  | text s => !s.isEmpty
  | list items => !items.isEmpty
  | dict entries => !entries.isEmpty

mutual

/-- A value as it stands inside a written collection, with texts in quotes. -/
def literal : Value → String
  | null => "None"
  | bool true => "True"
  | bool false => "False"
  | int n => toString n
  | float x => Decimal.text x
  | text s => Text.quoted s
  | list items => "[" ++ ", ".intercalate (literals items) ++ "]"
  | dict entries => "\x7b" ++ ", ".intercalate (entryLiterals entries) ++ "\x7d"

/-- The written forms of the items of a list. -/
def literals : List Value → List String
  | [] => []
  | v :: rest => literal v :: literals rest

/-- The written forms of the entries of a dictionary. -/
def entryLiterals : List (String × Value) → List String
  | [] => []
  | (name, v) :: rest => (Text.quoted name ++ ": " ++ literal v) :: entryLiterals rest

end

/-- A value written on its own: a text stands as it is. -/
def display : Value → String
  | text s => s
  | v => v.literal

end Value

end Extremum
