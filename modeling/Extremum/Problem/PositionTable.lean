import Extremum.Model.Basic

/-!
# Tables of positions

A table holds at most one position for a variable. Entering another one overwrites it, so a list of
variables fills as many entries as it is long only if it names no variable twice.
-/

namespace Extremum

/-- Positions by variable, in the order in which the variables were entered first. -/
abbrev PositionTable := List (VariableId × Nat)

namespace PositionTable

variable {table : PositionTable} {v : VariableId} {p : Nat} {vars : List VariableId}

/-- Enters the position of a variable, in the place of an earlier one. -/
def enter (v : VariableId) (p : Nat) : PositionTable → PositionTable
  | [] => [(v, p)]
  | (w, q) :: rest => if w = v then (v, p) :: rest else (w, q) :: enter v p rest

/-- Enters variables one after the other, at the positions from `p` on. -/
def enterFrom (table : PositionTable) (p : Nat) : List VariableId → PositionTable
  | [] => table
  | v :: rest => enterFrom (enter v p table) (p + 1) rest

/-- The table that numbers variables from one on. -/
def numbered (vars : List VariableId) : PositionTable := enterFrom [] 1 vars

def keys (table : PositionTable) : List VariableId := table.map (·.1)

theorem keys_enter :
    keys (enter v p table) = if v ∈ keys table then keys table else keys table ++ [v] := by
  induction table with
  | nil => simp [enter, keys]
  | cons entry rest ih =>
      obtain ⟨w, q⟩ := entry
      by_cases hw : w = v
      · simp [enter, keys, hw]
      · have hkeys : keys (enter v p ((w, q) :: rest)) = w :: keys (enter v p rest) := by
          simp [enter, keys, hw]
        have hmem : v ∈ keys ((w, q) :: rest) ↔ v ∈ keys rest := by
          simp [keys, Ne.symm hw]
        simp only [hkeys, ih, hmem]
        split <;> rfl

/-! ## Filling a table -/

theorem length_enter : (enter v p table).length =
    if v ∈ keys table then table.length else table.length + 1 := by
  have hlength : ∀ t : PositionTable, t.length = (keys t).length := fun t => by simp [keys]
  rw [hlength, hlength, keys_enter]
  split
  · rfl
  · exact List.length_append

theorem length_enterFrom_le : (enterFrom table p vars).length ≤ table.length + vars.length := by
  induction vars generalizing table p with
  | nil => exact Nat.le_refl _
  | cons v vars ih =>
      have h := @ih (enter v p table) (p + 1)
      rw [length_enter] at h
      rw [enterFrom, List.length_cons]
      split at h <;> omega

/-- Each variable fills an entry if none of them occurs twice or is in the table before. -/
theorem length_enterFrom_iff : (enterFrom table p vars).length = table.length + vars.length ↔
    vars.Nodup ∧ ∀ v ∈ vars, v ∉ keys table := by
  induction vars generalizing table p with
  | nil => simp [enterFrom]
  | cons v vars ih =>
      rw [enterFrom, List.length_cons]
      by_cases hv : v ∈ keys table
      · -- The entry is overwritten, so the table stays too short.
        have hle := @length_enterFrom_le (enter v p table) (p + 1) vars
        rw [length_enter, if_pos hv] at hle
        exact iff_of_false (by omega) fun h => h.2 v List.mem_cons_self hv
      · have h := @ih (enter v p table) (p + 1)
        rw [length_enter, if_neg hv, keys_enter, if_neg hv, Nat.add_right_comm] at h
        rw [← Nat.add_assoc, h]
        simp only [List.nodup_cons, List.mem_append, List.mem_cons]
        grind

theorem length_numbered_iff : (numbered vars).length = vars.length ↔ vars.Nodup := by
  have h := @length_enterFrom_iff [] 1 vars
  simpa [numbered, keys] using h

end PositionTable

end Extremum
