import Extremum.Fault
import Extremum.Value.Equality
import Extremum.Value.Record

/-!
# Types of options

The type of an option says which raw values the option can have, and what they are read as. Of
several alternatives, the one that a value matches exactly is taken; if there is none, the one
that it matches best, and of equal ones the first.
-/

namespace Extremum

/-- The type of an option. -/
inductive OptionKind where
  | boolean
  | integer
  | real
  | text
  /-- One of several values. -/
  | choice (values : List Value)
  /-- A value of one of several types. -/
  | anyOf (members : List OptionKind)
  /-- A fixed number of values. -/
  | tuple (members : List OptionKind)

namespace OptionKind

/-! ## Names -/

mutual

/-- The name of a type in the places of issues. -/
def label : OptionKind → String
  | boolean => "bool"
  | integer => "int"
  | real => "float"
  | text => "str"
  | choice values => "literal[" ++ ",".intercalate (values.map Value.literal) ++ "]"
  | anyOf members => "union[" ++ ",".intercalate (labels members) ++ "]"
  | tuple members => "tuple[" ++ ", ".intercalate (labels members) ++ "]"

def labels : List OptionKind → List String
  | [] => []
  | t :: rest => label t :: labels rest

end

/-! ## Reading types -/

/-- Two values are the same value of the same type. Lists and dictionaries are never compared. -/
def sameScalar : Value → Value → Bool
  | .null, .null => true
  | .bool a, .bool b => a == b
  | .int a, .int b => a == b
  | .float a, .float b => a == b
  | .text a, .text b => a == b
  | _, _ => false

/-- The first of each group of items that are the same. -/
def distinct {α : Type} (same : α → α → Bool) (items : List α) : List α :=
  items.foldl (fun known t => if known.any (same t) then known else known ++ [t]) []

/-- The choice among values; repetitions do not count. -/
def ofChoices (values : List Value) : OptionKind :=
  if values.all (·.isScalar) then choice (distinct sameScalar values) else choice values

mutual

/-- Two types are the same; the order of alternatives does not matter. -/
def same : OptionKind → OptionKind → Bool
  | boolean, boolean | integer, integer | real, real | text, text => true
  | choice vs, choice ws =>
    vs.all (fun v => ws.any (sameScalar v)) && ws.all (fun w => vs.any (sameScalar w))
  | anyOf ts, anyOf us => ts.length == us.length && allAmong ts us
  | tuple ts, tuple us => sameAll ts us
  | _, _ => false

/-- Each of some types is the same as one of others. -/
def allAmong : List OptionKind → List OptionKind → Bool
  | [], _ => true
  | t :: ts, us => us.any (same t) && allAmong ts us

/-- Two lists hold the same types in the same order. -/
def sameAll : List OptionKind → List OptionKind → Bool
  | [], [] => true
  | t :: ts, u :: us => same t u && sameAll ts us
  | _, _ => false

end

/-- The members of a type as an alternative of another. -/
def alternatives : OptionKind → List OptionKind
  | anyOf members => members
  | t => [t]

/-- Alternatives without repetitions; a single one stands for itself. -/
def ofAlternatives (members : List OptionKind) : OptionKind :=
  match distinct same (members.flatMap alternatives) with
  | [t] => t
  | members => anyOf members

mutual

/-- The type that a raw value describes; what describes no type admits no value. -/
def ofValue : Value → OptionKind
  | .text s =>
    match [boolean, integer, real, text].find? (·.label = s) with
    | some t => t
    | none => choice []
  | .dict entries => ofEntries entries
  | _ => choice []

/-- The type that the first entry of a dictionary describes. -/
def ofEntries : List (String × Value) → OptionKind
  | (name, .list items) :: _ =>
    if name = "literal" then ofChoices items
    else if name = "union" then ofAlternatives (ofValues items)
    else if name = "tuple" then tuple (ofValues items)
    else choice []
  | _ => choice []

def ofValues : List Value → List OptionKind
  | [] => []
  | v :: rest => ofValue v :: ofValues rest

end

mutual

/-- The type has no values, because somewhere in it there are no alternatives to choose from. -/
def lacksAlternatives : OptionKind → Bool
  | anyOf members => members.isEmpty || anyLacksAlternatives members
  | tuple members => anyLacksAlternatives members
  | _ => false

/-- One of the types has no values for want of alternatives. -/
def anyLacksAlternatives : List OptionKind → Bool
  | [] => false
  | t :: rest => lacksAlternatives t || anyLacksAlternatives rest

end

mutual

/-- Somewhere in the type there is a choice among no values. -/
def hasEmptyChoice : OptionKind → Bool
  | choice values => values.isEmpty
  | anyOf members | tuple members => anyHasEmptyChoice members
  | _ => false

/-- Somewhere in the types there is a choice among no values. -/
def anyHasEmptyChoice : List OptionKind → Bool
  | [] => false
  | t :: rest => hasEmptyChoice t || anyHasEmptyChoice rest

end

/-! ## Reading values -/

/--
The member of a choice that a raw value stands for. Booleans, integers and texts stand for
themselves first; after that, any equal member will do, floats before integers and booleans, and of
these the last one.
-/
def chosen? (values : List Value) (v : Value) : Option Value :=
  let exact := values.find? (sameScalar v)
  let other := values.find? fun w => !w.isDiscrete && w.agrees v
  let discrete := values.reverse.find? fun w => w.isDiscrete && w.agrees v
  exact.or (other.or discrete)

/-- A value with its exactness, read from a raw one. -/
abbrev Reading := Checked (Value × Exactness)

def ofMatch {α : Type} (wrap : α → Value) (m : Match α) : Reading :=
  .ofDefect (m.map fun (a, exactness) => (wrap a, exactness))

def consReading (first : Reading) (rest : Checked (List Value × Exactness)) :
    Checked (List Value × Exactness) :=
  Checked.both (fun (v, e) (vs, f) => (v :: vs, e.meet f)) first rest

mutual

/-- Reads a raw value as a value of a type. -/
def read : OptionKind → Value → Reading
  | boolean, v => ofMatch .bool v.asBool
  | integer, v => ofMatch .int v.asInt
  | real, v => ofMatch .float v.asFloat
  | text, v => ofMatch .text v.asText
  | choice values, v =>
    match chosen? values v with
    | some w => .ok (w, .exact)
    | none => .error [.here (.notAmong values)]
  | anyOf members, v => readBest none [] members v
  | tuple members, v =>
    match v with
    | .list items =>
      if members.length < items.length then
        .error [.here (.tooLong members.length items.length)]
      else (readItems 0 members items).map fun (vs, _) => (.list vs, .lax)
    | _ => .error [.here .notTuple]

/-- Reads items as values of types, one each; `index` is the place of the first item. -/
def readItems (index : Nat) : List OptionKind → List Value → Checked (List Value × Exactness)
  | [], _ => .ok ([], .exact)
  | _ :: types, [] =>
    consReading (.error [⟨[.index index], .missing⟩]) (readItems (index + 1) types [])
  | t :: types, v :: items =>
    consReading ((read t v).within (.index index)) (readItems (index + 1) types items)

/-- Reads a raw value as a value of the type that it matches best. -/
def readBest (best : Option (Value × Exactness)) (failures : List Issue) :
    List OptionKind → Value → Reading
  | [], _ =>
    match best with
    | some b => .ok b
    | none => .error failures
  | t :: types, v =>
    match read t v with
    | .ok (w, .exact) => .ok (w, .exact)
    | .ok (w, e) =>
      match best with
      | some (_, f) =>
        readBest (if f.rank < e.rank then some (w, e) else best) failures types v
      | none => readBest (some (w, e)) failures types v
    | .error issues => readBest best (failures ++ issues.map (·.within (.name t.label))) types v

end

/-- Reads an option; it may be absent. -/
def readOptional (t : OptionKind) : Value → Checked Value
  | .null => .ok .null
  | v => (t.read v).map (·.1)

end OptionKind

end Extremum
