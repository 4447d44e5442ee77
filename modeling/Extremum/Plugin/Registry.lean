import Extremum.Fault
import Extremum.Text.Lowercase

/-!
# Registries of plugins

Plugins are registered under names, which are compared without regard to case. A method is looked up
either by the name of its plugin and a slash, or by itself; then the plugins that can be discovered
are searched in order.
-/

namespace Extremum

/-- Something that provides methods. -/
structure Plugin (α : Type) where
  supports : String → Bool
  /-- The plugin is found by a method alone. -/
  discoverable : Bool
  value : α

/-- Plugins by name, in the order of the search. -/
structure Registry (α : Type) where
  entries : List (String × Plugin α)

namespace Registry

variable {α : Type}

def empty : Registry α := ⟨[]⟩

def solverType : String := "solver"

/-- Fails for a type of which there are no plugins. -/
def checkType (type : String) : Except Fault Unit :=
  if type = solverType then .ok () else .error (.unknownPluginType type)

/-- The plugin with a name in lower case. -/
def lookup? (r : Registry α) (name : String) : Option (Plugin α) := r.entries.lookup name

/--
Registers a plugin under a name; `none` stands for something that is no plugin of the type. A plugin
with priority is searched before all others, any other one after them.
-/
def add (r : Registry α) (type name : String) (plugin : Option (Plugin α)) (priority : Bool) :
    Except Fault (Registry α) := do
  checkType type
  match plugin with
  | none => throw (.wrongPluginType type name)
  | some p =>
    let key := Text.lowercase name
    if (r.lookup? key).isSome then throw (.duplicatePlugin key)
    return ⟨if priority then (key, p) :: r.entries else r.entries ++ [(key, p)]⟩

/-- The registry of the plugins that are installed, each under its name. -/
def ofInstalled (plugins : List (String × Option (Plugin α))) : Except Fault (Registry α) :=
  plugins.foldlM (fun r (name, plugin) => r.add solverType name plugin false) empty

/-- What stands before and after the first slash of a text. -/
def splitSlash? (s : String) : Option (String × String) :=
  match s.toList.dropWhile (· ≠ '/') with
  | _ :: rest => some (String.ofList (s.toList.takeWhile (· ≠ '/')), String.ofList rest)
  | [] => none

/-- The plugin that a method selects, with its name. -/
def find? (r : Registry α) (type method : String) : Except Fault (Option (String × Plugin α)) :=
  match splitSlash? method with
  | some (name, rest) => do
    checkType type
    let key := Text.lowercase name
    match r.lookup? key with
    | some p => return if p.supports rest then some (key, p) else none
    | none => return none
  | none => do
    if method = "default" then throw .bareDefault
    checkType type
    return r.entries.find? fun e => e.2.discoverable && e.2.supports method

/-- The plugin that a method selects; there must be one. -/
def plugin (r : Registry α) (type method : String) : Except Fault α := do
  match ← r.find? type method with
  | some (_, p) => return p.value
  | none => throw (.methodNotFound method)

/-- The name of the plugin that a method selects. -/
def pluginName (r : Registry α) (type method : String) : Except Fault (Option String) :=
  return (← r.find? type method).map (·.1)

end Registry

end Extremum
