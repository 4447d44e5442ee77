import Extremum.Fault
import Extremum.Problem.PositionTable

/-!
# Positions of variables

`Positions` numbers the variables of a model from one on, in the order of the model. No variable has
two positions. A variable is looked up in a table, a position in the list of variables.
-/

namespace Extremum

/-- Variables in the order of their positions. -/
structure Positions where
  vars : List VariableId
  nodup : vars.Nodup

namespace Positions

/--
The positions of a list of variables, which must not name a variable twice. If it does, then their
table has fewer entries than the list.
-/
def ofList (vars : List VariableId) : Except Fault Positions :=
  if h : (PositionTable.numbered vars).length = vars.length then
    .ok ⟨vars, PositionTable.length_numbered_iff.1 h⟩
  else .error .duplicateVariables

def size (ps : Positions) : Nat := ps.vars.length

def table (ps : Positions) : PositionTable := PositionTable.numbered ps.vars

/-- The position of a variable, if it has one. -/
def find? (ps : Positions) (v : VariableId) : Option Nat := ps.table.lookup v

def position (ps : Positions) (v : VariableId) : Except Fault Nat :=
  match ps.find? v with
  | some p => .ok p
  | none => .error (.unknownVariable v)

def variableAt (ps : Positions) (p : Int) : Except Fault VariableId :=
  if p < 1 then .error (.unknownPosition p)
  else
    match ps.vars[(p - 1).toNat]? with
    | some v => .ok v
    | none => .error (.unknownPosition p)

def items (ps : Positions) : List (VariableId × Nat) :=
  ps.vars.zip ((List.range ps.size).map (· + 1))

end Positions

/-- A list by position with the entry at a position changed. -/
def changedAt {α : Type} (entries : List α) (p : Nat) (change : α → α) : Except Fault (List α) :=
  if p - 1 < entries.length then .ok (entries.modify (p - 1) change)
  else .error (.outOfBounds (p - 1) entries.length)

end Extremum
