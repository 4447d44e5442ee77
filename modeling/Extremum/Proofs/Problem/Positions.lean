import Extremum.Problem.Positions
import Mathlib

/-!
# Looking up positions

The variables that have positions are those that were numbered. Looking up another one fails, and
names it. The table and the list of variables that it was filled from undo each other.
-/

namespace Extremum

/-! ## Looking up the entries of a table -/

namespace PositionTable

variable {table : PositionTable} {v w : VariableId} {p : Nat} {vars : List VariableId}

theorem lookup_enter_self : (enter v p table).lookup v = some p := by
  induction table with
  | nil => simp [enter]
  | cons entry rest ih =>
      obtain ⟨w, q⟩ := entry
      by_cases hw : w = v
      · simp [enter, hw]
      · simpa [enter, hw, List.lookup_cons, beq_false_of_ne (Ne.symm hw)] using ih

theorem lookup_enter_of_ne (h : w ≠ v) : (enter v p table).lookup w = table.lookup w := by
  induction table with
  | nil => simp [enter, List.lookup_cons, beq_false_of_ne h]
  | cons entry rest ih =>
      obtain ⟨u, q⟩ := entry
      by_cases hu : u = v
      · simp [enter, hu, List.lookup_cons, beq_false_of_ne h]
      · simp [enter, hu, List.lookup_cons, ih]

/-- Variables that are entered once each have consecutive positions, all others are as before. -/
theorem lookup_enterFrom (hnodup : vars.Nodup) : (enterFrom table p vars).lookup v =
    if v ∈ vars then some (p + vars.idxOf v) else table.lookup v := by
  induction vars generalizing table p with
  | nil => rfl
  | cons w vars ih =>
      obtain ⟨hw, hnodup⟩ := List.nodup_cons.1 hnodup
      rw [enterFrom, ih hnodup]
      by_cases hv : v = w
      · subst hv
        rw [if_neg hw, lookup_enter_self, if_pos List.mem_cons_self, List.idxOf_cons_self]
        rfl
      · rw [lookup_enter_of_ne hv, List.idxOf_cons_ne vars (Ne.symm hv)]
        simp only [List.mem_cons, hv, false_or, Nat.succ_eq_add_one, Nat.add_assoc, Nat.add_comm 1]

end PositionTable

namespace Positions

variable {vs : List VariableId} {ps : Positions} {v : VariableId}

/-! ## Looking up variables -/

theorem ofList_eq_ok : ofList vs = .ok ps ↔ vs.Nodup ∧ ps.vars = vs := by
  obtain ⟨us, hus⟩ := ps
  unfold ofList
  split
  · rename_i h
    simp [PositionTable.length_numbered_iff.1 h, eq_comm]
  · rename_i h
    simp [mt PositionTable.length_numbered_iff.2 h]

theorem find?_eq : ps.find? v = if v ∈ ps.vars then some (ps.vars.idxOf v + 1) else none := by
  rw [find?, table, PositionTable.numbered, PositionTable.lookup_enterFrom ps.nodup, Nat.add_comm 1]
  rfl

theorem position_of_mem (hv : v ∈ ps.vars) : ps.position v = .ok (ps.vars.idxOf v + 1) := by
  rw [position, find?_eq, if_pos hv]

theorem position_of_not_mem (hv : v ∉ ps.vars) : ps.position v = .error (.unknownVariable v) := by
  rw [position, find?_eq, if_neg hv]

theorem exists_position (hv : v ∈ ps.vars) : ∃ p, ps.position v = .ok p :=
  ⟨_, position_of_mem hv⟩

theorem mem_of_position {p : Nat} (h : ps.position v = .ok p) : v ∈ ps.vars := by
  by_contra hv
  cases (position_of_not_mem hv).symm.trans h

theorem position_eq_error {fault : Fault} (h : ps.position v = .error fault) :
    v ∉ ps.vars ∧ fault = .unknownVariable v := by
  by_cases hv : v ∈ ps.vars
  · cases (position_of_mem hv).symm.trans h
  · rw [position_of_not_mem hv] at h
    cases h
    exact ⟨hv, rfl⟩

/-! ## Positions of variables that are known to have one -/

/-- The position of a variable; that of a variable without one has no meaning. -/
def index (ps : Positions) (v : VariableId) : Nat := ps.vars.idxOf v + 1

/-- A variable that has a position shares it with no other one. -/
theorem index_inj {w : VariableId} (hv : v ∈ ps.vars) : ps.index v = ps.index w ↔ v = w := by
  unfold index
  rw [Nat.add_right_cancel_iff, List.idxOf_inj hv]

/-- Changing the entry of a variable leaves those of all other variables as they are. -/
theorem changedAt_index {α : Type} {g : VariableId → α} (hv : v ∈ ps.vars) (change : α → α) :
    changedAt (ps.vars.map g) (ps.index v) change =
      .ok (ps.vars.map (Function.update g v (change (g v)))) := by
  have hlt : ps.vars.idxOf v < (ps.vars.map g).length := by
    rw [List.length_map]
    exact List.idxOf_lt_length_of_mem hv
  unfold changedAt index
  rw [Nat.add_sub_cancel, if_pos hlt]
  refine congrArg Except.ok (List.ext_getElem (by simp) fun i _ hmap => ?_)
  have hi : i < ps.vars.length := by simpa using hmap
  rw [List.getElem_modify, List.getElem_map, List.getElem_map]
  by_cases hw : ps.vars.idxOf v = i
  · subst hw
    rw [if_pos rfl, List.getElem_idxOf hi, Function.update_self]
  · have hne : ps.vars[i] ≠ v := by
      rintro rfl
      exact hw (ps.nodup.idxOf_getElem i hi)
    rw [if_neg hw, Function.update_of_ne hne]

/-! ## Looking up positions -/

theorem variableAt_eq_ok {p : Int} :
    ps.variableAt p = .ok v ↔ ∃ i : Nat, p = i + 1 ∧ ps.vars[i]? = some v := by
  unfold variableAt
  split
  · rename_i hp
    exact ⟨nofun, fun ⟨i, hi, _⟩ => by omega⟩
  · rename_i hp
    have hi : ∀ i : Nat, p = i + 1 ↔ i = (p - 1).toNat := fun i => by omega
    simp only [hi, exists_eq_left]
    split <;> simp_all

theorem variableAt_of_outside {p : Int} (h : ¬ (1 ≤ p ∧ p ≤ ps.vars.length)) :
    ps.variableAt p = .error (.unknownPosition p) := by
  unfold variableAt
  split
  · rfl
  · rw [List.getElem?_eq_none (by omega)]

theorem exists_variableAt {p : Int} (h : 1 ≤ p ∧ p ≤ ps.vars.length) :
    ∃ v, ps.variableAt p = .ok v := by
  have hi : (p - 1).toNat < ps.vars.length := by omega
  exact ⟨_, variableAt_eq_ok.2 ⟨(p - 1).toNat, by omega, List.getElem?_eq_getElem hi⟩⟩

/-- A variable stands in the list where the table says. -/
theorem getElem?_vars_iff {i : Nat} :
    ps.vars[i]? = some v ↔ v ∈ ps.vars ∧ ps.vars.idxOf v = i := by
  constructor
  · intro h
    obtain ⟨hi, rfl⟩ := List.getElem?_eq_some_iff.1 h
    exact ⟨List.getElem_mem hi, ps.nodup.idxOf_getElem i hi⟩
  · rintro ⟨hv, rfl⟩
    exact List.getElem?_idxOf hv

theorem position_getElem {i : Nat} (hi : i < ps.vars.length) :
    ps.position ps.vars[i] = .ok (i + 1) := by
  rw [position_of_mem (List.getElem_mem hi), ps.nodup.idxOf_getElem i hi]

/-! ## Numbering a list -/

/-- The two look-ups number the variables of a list from one on, in their order. -/
structure Numbers (ps : Positions) (vars : List VariableId) : Prop where
  position_known : ∀ v, (∃ p, ps.position v = .ok p) ↔ v ∈ vars
  position_unknown : ∀ v, v ∉ vars → ps.position v = .error (.unknownVariable v)
  variable_known : ∀ p : Int, (∃ v, ps.variableAt p = .ok v) ↔ 1 ≤ p ∧ p ≤ vars.length
  variable_unknown : ∀ p : Int, ¬ (1 ≤ p ∧ p ≤ vars.length) →
    ps.variableAt p = .error (.unknownPosition p)
  /-- Each look-up undoes the other one. -/
  inverse : ∀ v p, ps.variableAt p = .ok v ↔ ∃ q : Nat, p = q ∧ ps.position v = .ok q
  order : ps.vars = vars
  ascending : ps.vars.map ps.position = (List.range' 1 vars.length).map .ok
  items : ps.items.map (·.1) = vars ∧ ∀ item ∈ ps.items, ps.position item.1 = .ok item.2

theorem numbers_vars (ps : Positions) : ps.Numbers ps.vars where
  position_known v := ⟨fun ⟨_, h⟩ => mem_of_position h, exists_position⟩
  position_unknown _ := position_of_not_mem
  variable_known p := by
    refine ⟨fun ⟨v, h⟩ => ?_, exists_variableAt⟩
    by_contra hp
    cases (variableAt_of_outside hp).symm.trans h
  variable_unknown _ := variableAt_of_outside
  inverse v p := by
    simp only [variableAt_eq_ok, getElem?_vars_iff]
    constructor
    · rintro ⟨i, rfl, hv, rfl⟩
      exact ⟨_, rfl, position_of_mem hv⟩
    · rintro ⟨q, rfl, hq⟩
      have hv := mem_of_position hq
      rw [position_of_mem hv] at hq
      cases hq
      exact ⟨_, rfl, hv, rfl⟩
  order := rfl
  ascending := by
    refine List.ext_getElem (by simp) fun i hi _ => ?_
    rw [List.length_map] at hi
    rw [List.getElem_map, List.getElem_map, position_getElem hi, List.getElem_range', Nat.one_mul,
      Nat.add_comm]
  items := by
    refine ⟨List.map_fst_zip (by simp [size]), fun item hitem => ?_⟩
    obtain ⟨i, hi, rfl⟩ := List.mem_iff_getElem.1 hitem
    have hi' : i < ps.vars.length := by simpa [Positions.items, size] using hi
    simp [Positions.items, position_getElem hi']

/--
A list of variables has positions if and only if no variable occurs in it twice, and a repetition is
the only fault. If it has, then exactly its variables can be looked up by name and exactly the
numbers from one to its length by position, each look-up undoes the other, and the variables come in
the order of the list, which is that of their positions.
-/
theorem ofList_numbers (vars : List VariableId) :
    (∀ fault, ofList vars = .error fault ↔
        fault = .duplicateVariables ∧ ∃ v, List.Duplicate v vars) ∧
      ((∃ ps, ofList vars = .ok ps ∧ ps.Numbers vars) ↔ ¬ ∃ v, List.Duplicate v vars) := by
  rw [List.exists_duplicate_iff_not_nodup, not_not]
  by_cases hnodup : vars.Nodup
  · let ps : Positions := ⟨vars, hnodup⟩
    have hps : ofList vars = .ok ps := ofList_eq_ok.2 ⟨hnodup, rfl⟩
    refine ⟨fun fault => iff_of_false ?_ fun h => h.2 hnodup, iff_of_true ?_ hnodup⟩
    · rw [hps]
      exact nofun
    · exact ⟨ps, hps, ps.numbers_vars⟩
  · have hrefused : ofList vars = .error .duplicateVariables :=
      dif_neg (mt PositionTable.length_numbered_iff.1 hnodup)
    refine ⟨fun fault => ?_, iff_of_false ?_ hnodup⟩
    · rw [hrefused, Except.error.injEq, and_iff_left hnodup, eq_comm]
    · rintro ⟨ps, hps, -⟩
      exact hnodup (ofList_eq_ok.1 hps).1

end Positions

end Extremum
