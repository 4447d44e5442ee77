import Extremum.Fault
import Extremum.Options.Kind
import Extremum.Text.Lowercase

/-!
# Schemas of options

A schema names the methods of a solver and the options of each of them. Options of a method are read
by its schema: every known one has to have its type, and unknown ones are refused. Some names are
kept for the reader's own use: a schema may list options with such names, but they cannot be set.

What counts as a web address is not for a schema to say: it is read with any reader of addresses.
-/

namespace Extremum

/-- The options of a method and the address of its description. -/
structure MethodSchema where
  options : List (String × OptionKind)
  address : Option String

/-- The schemas of methods by their names. -/
structure OptionsSchema where
  methods : List (String × MethodSchema)

/-- Reads a text as an address: its scheme and its written form, or what is wrong with it. -/
abbrev AddressReader := String → Except String (String × String)

namespace MethodSchema

/-- A web address in its written form. -/
def addressField (read : AddressReader) (v : Value) : Checked String :=
  match v with
  | .text s =>
    if 2083 < s.utf8ByteSize then .error [.here .overlongUrl]
    else if s.isEmpty then .error [.here (.unreadableUrl "input is empty")]
    else
      match read s with
      | .error reason => .error [.here (.unreadableUrl reason)]
      | .ok (scheme, address) =>
        if scheme = "http" ∨ scheme = "https" then .ok address
        else .error [.here .urlScheme]
  | _ => .error [.here .notUrl]

/-- The schema of a method from a raw value. -/
def ofValue (read : AddressReader) (v : Value) : Checked MethodSchema := do
  let entries ← v.asRecord "MethodSchemaModel[Any]"
  let options := entries.required "options" Value.asDictionary
  let address := entries.withDefault "url" none (Value.asOptional (addressField read))
  let schema := Checked.both (fun options address =>
    MethodSchema.mk (options.map fun (name, t) => (name, OptionKind.ofValue t)) address)
    options address
  Checked.andAlso schema (entries.nothingBut ["options", "url"])

/-- The refusal of options that the method does not have. -/
def unknownReason (names : List String) : String :=
  "Unknown or unsupported option(s): " ++ ", ".intercalate (names.map ("`" ++ · ++ "`"))

/-- The name under which a record keeps how it is read; no option can be set by it. -/
def reservedName : String := "model_config"

/-- Options can be set by a name that is not private, with an underscore in front, nor reserved. -/
def isSettable (name : String) : Bool := name.toList.head? != some '_' && name != reservedName

def settable (m : MethodSchema) : List (String × OptionKind) :=
  m.options.filter fun o => isSettable o.1

/--
Reads options. The result has an entry for every option that can be set; the absent ones are null.
-/
def readOptions (m : MethodSchema) (v : Value) : Checked Entries := do
  let entries ← v.asRecord "OptionsModel"
  let known ← Checked.all (m.settable.map fun (name, t) =>
    (entries.withDefault name .null t.readOptional).map (name, ·))
  match entries.filter fun e => ¬ m.settable.any (·.1 = e.1) with
  | [] => return known
  | unknown => .error [.here (.rejected (unknownReason (unknown.map (·.1))))]

/-- The row of a method in the table of options. -/
def row (name : String) (m : MethodSchema) : String :=
  let title :=
    match m.address with
    | some address => "[" ++ name ++ "](" ++ address ++ ")"
    | none => name
  "|" ++ title ++ "|" ++ ", ".intercalate (m.options.map (·.1)) ++ "|\n"

end MethodSchema

namespace OptionsSchema

/-- The schemas of all methods of a dictionary. -/
def methodsField (read : AddressReader) (v : Value) : Checked (List (String × MethodSchema)) := do
  let entries ← v.asDictionary
  Checked.all (entries.map fun (name, w) =>
    ((MethodSchema.ofValue read w).within (.name name)).map (name, ·))

def ofValue (read : AddressReader) (v : Value) : Checked OptionsSchema := do
  let entries ← v.asRecord "OptionsSchemaModel"
  let methods := entries.required "methods" (methodsField read)
  Checked.andAlso (methods.map OptionsSchema.mk) (entries.nothingBut ["methods"])

/-- The schema of a method, whose name is compared without regard to case. -/
def find? (s : OptionsSchema) (method : String) : Option MethodSchema :=
  (s.methods.find? fun m => Text.lowercase m.1 = Text.lowercase method).map (·.2)

/-- The schema of a method, which must be there. -/
def method (s : OptionsSchema) (name : String) : Except Fault MethodSchema :=
  match s.find? name with
  | some m => .ok m
  | none => .error (.methodNotInSchema name)

/-- Every option has a type: none is of one of several types where there are none. -/
def checkAlternatives (s : OptionsSchema) : Except Fault Unit :=
  if s.methods.any fun m => m.2.options.any (·.2.lacksAlternatives) then .error .emptyUnion
  else .ok ()

/-- Reads the options of a method. A choice among no values has no reading at all. -/
def readOptions (s : OptionsSchema) (method : String) (v : Value) : Except Fault Entries := do
  let m ← s.method method
  if m.settable.any (·.2.hasEmptyChoice) then throw .emptyChoice
  (m.readOptions v).mapError .invalid

/-- A table of all methods and their options. -/
def table (s : OptionsSchema) : String :=
  "\n| Method | Method Options |\n|--------|----------------|\n" ++
    String.join (s.methods.map fun (name, m) => m.row name)

end OptionsSchema

end Extremum
