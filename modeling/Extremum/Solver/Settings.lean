import Extremum.Value.Record

/-!
# Settings of solvers

Which method solves a model, and how. The method is never empty and has no blanks around it, and the
same holds for the names of options; their values are kept as they are.
-/

namespace Extremum

/-- The choice of a method and its settings. -/
structure Settings where
  /-- The method, optionally after the name of a plugin and a slash. -/
  method : String
  /-- The tolerance of convergence. -/
  tolerance : Option Float
  maxIterations : Option Nat
  /-- Options of the method. -/
  options : Option Entries

namespace Settings

def default : Settings := ⟨"scipy/default", none, none, none⟩

/-- A text that is not empty, without the blanks around it. -/
def trimmedText (s : String) : Checked String :=
  let trimmed := Text.trim s
  if trimmed.isEmpty then .error [.here .tooShort] else .ok trimmed

def methodField (v : Value) : Checked String := do
  let (s, _) ← Checked.ofDefect v.asText
  trimmedText s

def optionNames (entries : Entries) : Checked (List String) :=
  Checked.all (entries.map fun e =>
    ((trimmedText e.1).within (.name "[key]")).within (.name e.1))

/-- Options; of those with the same trimmed name, the last one counts. -/
def optionsField (v : Value) : Checked Entries := do
  let entries ← v.asDictionary
  let names ← optionNames entries
  return (names.zip (entries.map (·.2))).foldl (fun known e => known.insert e.1 e.2) []

def ofValue (v : Value) : Checked Settings := do
  let entries ← v.asRecord "SolverConfig"
  let method := entries.withDefault "method" default.method methodField
  let tolerance := entries.withDefault "tolerance" none
    (Value.asOptional fun v => .ofDefect v.asPositive)
  let maxIterations := entries.withDefault "max_iterations" none
    (Value.asOptional fun v => .ofDefect v.asCount)
  let options := entries.withDefault "options" none (Value.asOptional optionsField)
  let settings := Checked.both Settings.mk method tolerance
  let settings := Checked.apply settings maxIterations
  let settings := Checked.apply settings options
  Checked.andAlso settings
    (entries.nothingBut ["method", "tolerance", "max_iterations", "options"])

end Settings

end Extremum
