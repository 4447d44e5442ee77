import Extremum.Value.Coerce

/-!
# Records read from raw values

A record is a dictionary with fixed fields. Each field is read on its own, and the issues of all
fields are reported together, in the order of the fields. Entries that are no fields come last.
-/

namespace Extremum

abbrev Entries := List (String × Value)

namespace Entries

/-- The field with a name; it must be there. -/
def required {α : Type} (entries : Entries) (name : String) (read : Value → Checked α) :
    Checked α :=
  match entries.lookup name with
  | some v => (read v).within (.name name)
  | none => .error [⟨[.name name], .missing⟩]

/-- The field with a name, or a value to take in its absence. -/
def withDefault {α : Type} (entries : Entries) (name : String) (absent : α)
    (read : Value → Checked α) : Checked α :=
  match entries.lookup name with
  | some v => (read v).within (.name name)
  | none => .ok absent

/-- Nothing but the known fields may be there. -/
def nothingBut (entries : Entries) (known : List String) : Checked Unit :=
  match entries.filter fun e => ¬ known.contains e.1 with
  | [] => .ok ()
  | unknown => .error (unknown.map fun e => ⟨[.name e.1], .unexpected⟩)

/-- Sets an entry. One that is there already keeps its place. -/
def insert (entries : Entries) (name : String) (v : Value) : Entries :=
  if entries.any (·.1 = name) then
    entries.map fun e => if e.1 = name then (name, v) else e
  else entries ++ [(name, v)]

end Entries

namespace Value

/-- The entries of a dictionary that stands for a record. -/
def asRecord (name : String) : Value → Checked Entries
  | .dict entries => .ok entries
  | _ => .error [.here (.notRecord name)]

def asDictionary : Value → Checked Entries
  | .dict entries => .ok entries
  | _ => .error [.here .notDictionary]

/-- Nothing, or a value that is read. -/
def asOptional {α : Type} (read : Value → Checked α) : Value → Checked (Option α)
  | .null => .ok none
  | v => (read v).map some

end Value

end Extremum
