import Extremum.Grid.Reading
import Extremum.Proofs.Success

/-!
# Shapes of nested lists

A raw value has a shape if its lists are nested regularly. The shape that is found for a value is
one that the value has, and the number of levels in it is the depth of the nesting: one for a list
without lists in it, none for a single value.
-/

namespace Extremum

namespace Value

def IsList : Value → Prop
  | list _ => True
  | _ => False

/-- Lists of one level have the same length. Below lists without items there are no levels. -/
def HasShape : List Nat → Value → Prop
  | n :: shape, list items =>
    items.length = n ∧ (n = 0 → shape = []) ∧ ∀ item ∈ items, HasShape shape item
  | shape, v => shape = [] ∧ ¬ v.IsList

variable {v : Value} {shape : List Nat} {n : Nat}

theorem HasShape.nil (h : ¬ v.IsList) : HasShape [] v := by
  cases v <;> exact ⟨rfl, h⟩

theorem HasShape.tail_eq_nil (h : HasShape (n :: shape) v) : n = 0 → shape = [] := by
  cases v with
  | list items => exact h.2.1
  | _ => cases h.1

/-- What is left of a shape below its first level is the shape of some value. -/
theorem HasShape.exists_tail (h : HasShape (n :: shape) v) : ∃ w, HasShape shape w := by
  cases v with
  | list items =>
      obtain ⟨hlength, hempty, hitems⟩ := h
      cases items with
      | nil => exact ⟨.null, hempty hlength.symm ▸ HasShape.nil id⟩
      | cons item rest => exact ⟨item, hitems item List.mem_cons_self⟩
  | _ => cases h.1

end Value

namespace Grid

open Value

/-! ## Outlines -/

theorem outline_list (level : Nat) (o : Outline) (items : List Value) :
    outline level o (.list items) =
      if ¬ (o.enter level items.length).2 then (o.enter level items.length).1
      else if items.isEmpty then
        { (o.enter level items.length).1 with depth := level + 1, settled := true }
      else outlines (level + 1) (o.enter level items.length).1 items := rfl

theorem irregular_entry {o : Outline} (level : Nat) (h : o.irregular = true) :
    (o.entry level).irregular = true := by
  unfold Outline.entry
  split
  · exact h
  · simp [h]

theorem irregular_enter {o : Outline} (level n : Nat) (h : o.irregular = true) :
    (o.enter level n).1.irregular = true := by
  unfold Outline.enter
  split
  · rfl
  split
  · exact h
  split
  · exact h
  · rfl

mutual

/-- What does not fit together stays so. -/
theorem irregular_outline (level : Nat) {o : Outline} (h : o.irregular = true) :
    (v : Value) → (outline level o v).irregular = true
  | .list items => by
      have henter := irregular_enter level items.length h
      rw [outline_list]
      split
      · exact henter
      split
      · exact henter
      · exact irregular_outlines (level + 1) henter items
  | .null | .bool _ | .int _ | .float _ | .text _ | .dict _ => irregular_entry level h

theorem irregular_outlines (level : Nat) {o : Outline} (h : o.irregular = true) :
    (items : List Value) → (outlines level o items).irregular = true
  | [] => h
  | v :: rest => irregular_outlines level (irregular_outline level h v) rest

end

theorem regular_of_outlines {level : Nat} {o : Outline} {items : List Value}
    (h : (outlines level o items).irregular = false) : o.irregular = false := by
  by_contra hne
  rw [irregular_outlines level (by simpa using hne) items] at h
  cases h

theorem regular_enter {level : Nat} {o : Outline} {items : List Value}
    (h : (outline level o (.list items)).irregular = false) :
    (o.enter level items.length).1.irregular = false := by
  rw [outline_list] at h
  split at h
  · exact h
  split at h
  · exact h
  · exact regular_of_outlines h

/-! ## Values that fit -/

/-- The outline when a value of a shape was met below lists of some lengths. -/
def Outline.filled (lengths shape : List Nat) : Outline :=
  ⟨lengths ++ shape, lengths.length + shape.length, true, false⟩

/-- The outline when only lists of some lengths were entered. -/
def Outline.entered (lengths : List Nat) : Outline := ⟨lengths, depthLimit, false, false⟩

variable {lengths shape : List Nat} {n : Nat} {v : Value} {items : List Value}

theorem Outline.filled_cons (lengths : List Nat) (n : Nat) (shape : List Nat) :
    filled lengths (n :: shape) = filled (lengths ++ [n]) shape := by
  simp only [filled, List.append_assoc, List.singleton_append, List.length_append,
    List.length_cons, List.length_nil, Outline.mk.injEq, and_true, true_and]
  omega

theorem entry_filled (h : ((Outline.filled lengths shape).entry lengths.length).irregular = false) :
    shape = [] ∧
      (Outline.filled lengths shape).entry lengths.length = .filled lengths shape := by
  unfold Outline.entry at h ⊢
  split at h
  · rename_i hdepth
    have hshape : shape.length = 0 := by
      simp only [Outline.filled] at hdepth
      omega
    rw [if_pos hdepth]
    exact ⟨List.eq_nil_of_length_eq_zero hshape, rfl⟩
  · simp [Outline.filled] at h

theorem enter_filled
    (h : ((Outline.filled lengths shape).enter lengths.length n).1.irregular = false) :
    ∃ rest, shape = n :: rest ∧
      (Outline.filled lengths shape).enter lengths.length n = (.filled lengths shape, true) := by
  unfold Outline.enter at h ⊢
  split at h
  · cases h
  rename_i hdepth
  rw [if_neg hdepth]
  split at h
  · rename_i hsettled
    exact absurd rfl hsettled
  rename_i hsettled
  rw [if_neg hsettled]
  split at h
  · rename_i hlength
    rw [if_pos hlength]
    cases shape with
    | nil => simp [Outline.filled] at hdepth
    | cons m rest =>
        simp only [Outline.filled, List.getElem?_append_right le_rfl, Nat.sub_self,
          List.getElem?_cons_zero, Option.some.injEq] at hlength
        exact ⟨rest, by rw [hlength], rfl⟩
  · cases h

mutual

/-- Once a value of a shape was met, another one that fits has this shape and changes nothing. -/
theorem hasShape_of_filled (lengths shape : List Nat) (hshape : ∃ w, HasShape shape w) :
    (v : Value) →
    (outline lengths.length (.filled lengths shape) v).irregular = false →
    HasShape shape v ∧ outline lengths.length (.filled lengths shape) v = .filled lengths shape
  | .list items, h => by
      obtain ⟨rest, rfl, henter⟩ := enter_filled (regular_enter h)
      obtain ⟨w, hw⟩ := hshape
      rw [outline_list, henter, if_neg (by simp)] at h ⊢
      -- an empty list shows no levels below it; the value met before says that there are none
      have hempty := hw.tail_eq_nil
      split at h
      · rename_i hitems
        obtain rfl := List.isEmpty_iff.1 hitems
        obtain rfl := hempty rfl
        exact ⟨⟨rfl, fun _ => rfl, by simp⟩, rfl⟩
      · rename_i hitems
        rw [if_neg hitems]
        rw [Outline.filled_cons] at h ⊢
        have hlevel : lengths.length + 1 = (lengths ++ [items.length]).length := by simp
        rw [hlevel] at h ⊢
        obtain ⟨hall, hsame⟩ := hasShape_all_of_filled _ rest hw.exists_tail items h
        exact ⟨⟨rfl, hempty, hall⟩, hsame⟩
  | .null, h | .bool _, h | .int _, h | .float _, h | .text _, h | .dict _, h => by
      obtain ⟨rfl, hentry⟩ := entry_filled h
      exact ⟨.nil id, hentry⟩

theorem hasShape_all_of_filled (lengths shape : List Nat) (hshape : ∃ w, HasShape shape w) :
    (items : List Value) →
    (outlines lengths.length (.filled lengths shape) items).irregular = false →
    (∀ item ∈ items, HasShape shape item) ∧
      outlines lengths.length (.filled lengths shape) items = .filled lengths shape
  | [], _ => ⟨by simp, rfl⟩
  | v :: rest, h => by
      rw [outlines] at h ⊢
      obtain ⟨hv, hsame⟩ := hasShape_of_filled lengths shape hshape v (regular_of_outlines h)
      rw [hsame] at h ⊢
      obtain ⟨hrest, hsame⟩ := hasShape_all_of_filled lengths shape hshape rest h
      exact ⟨List.forall_mem_cons.2 ⟨hv, hrest⟩, hsame⟩

end

variable {α : Type} {entry : Value → Except Fault α} {g : Grid α}

end Grid

end Extremum
