import Extremum.Problem.Limits
import Extremum.Proofs.Number.Difference

/-!
# How far values lie outside their limits

As long as no distance is NaN, the worst violation of limits stays within a tolerance if and only if
each value does, on both sides.
-/

namespace Extremum.Measure

open Number

variable {x y z : Float} {xs : List Float}

/-! ## Greatest numbers -/

theorem later_eq (x y : Float) : later x y = if x < y then y else x := by
  show (if decide (x < y) = true then y else x) = _
  simp only [decide_eq_true_eq]

theorem later_isNaN (hx : x.isNaN = false) (hy : y.isNaN = false) :
    (later x y).isNaN = false := by
  rw [later_eq]
  split
  · exact hy
  · exact hx

theorem later_le_iff (hx : x.isNaN = false) (hy : y.isNaN = false) :
    later x y ≤ z ↔ x ≤ z ∧ y ≤ z := by
  rw [later_eq]
  exact greater_le_iff hx hy

theorem greater_eq_later (hx : x.isNaN = false) (hy : y.isNaN = false) :
    greater x y = later x y := by
  show (if x.isNaN = true then x else if y.isNaN = true then y else later x y) = _
  rw [hx, hy]
  rfl

theorem earlier_eq (x y : Float) : earlier x y = if y < x then y else x := by
  show (if decide (y < x) = true then y else x) = _
  simp only [decide_eq_true_eq]

theorem lesser_eq_earlier (hx : x.isNaN = false) (hy : y.isNaN = false) :
    lesser x y = earlier x y := by
  show (if x.isNaN = true then x else if y.isNaN = true then y else earlier x y) = _
  rw [hx, hy]
  rfl

theorem greater_of_isNaN (hx : x.isNaN = true) : greater x y = x := if_pos hx

theorem lesser_of_isNaN (hx : x.isNaN = true) : lesser x y = x := if_pos hx

theorem foldl_greater_isNaN (hx : x.isNaN = false) (h : ∀ y ∈ xs, y.isNaN = false) :
    (xs.foldl greater x).isNaN = false := by
  induction xs generalizing x with
  | nil => exact hx
  | cons y xs ih =>
      obtain ⟨hy, hxs⟩ := List.forall_mem_cons.1 h
      rw [List.foldl_cons, greater_eq_later hx hy]
      exact ih (later_isNaN hx hy) hxs

theorem foldl_greater_le_iff (hx : x.isNaN = false) (h : ∀ y ∈ xs, y.isNaN = false) :
    xs.foldl greater x ≤ z ↔ x ≤ z ∧ ∀ y ∈ xs, y ≤ z := by
  induction xs generalizing x with
  | nil => simp
  | cons y xs ih =>
      obtain ⟨hy, hxs⟩ := List.forall_mem_cons.1 h
      rw [List.foldl_cons, greater_eq_later hx hy, ih (later_isNaN hx hy) hxs,
        later_le_iff hx hy, List.forall_mem_cons, and_assoc]

theorem greatest_isNaN (h : ∀ x ∈ xs, x.isNaN = false) : (greatest xs).isNaN = false := by
  cases xs with
  | nil => rfl
  | cons x xs =>
      obtain ⟨hx, hxs⟩ := List.forall_mem_cons.1 h
      exact foldl_greater_isNaN hx hxs

theorem greatest_le_iff (hne : xs ≠ []) (h : ∀ x ∈ xs, x.isNaN = false) :
    greatest xs ≤ z ↔ ∀ x ∈ xs, x ≤ z := by
  cases xs with
  | nil => exact absurd rfl hne
  | cons x xs =>
      obtain ⟨hx, hxs⟩ := List.forall_mem_cons.1 h
      rw [List.forall_mem_cons]
      exact foldl_greater_le_iff hx hxs

/-! ## Distances -/

/-- Both distances of a value from its limits are numbers. -/
def Comparable (range : Float × Float) (value : Float) : Prop :=
  (shortfall range.1 value).isNaN = false ∧ (excess value range.2).isNaN = false

def Tolerated (tolerance : Float) (range : Float × Float) (value : Float) : Prop :=
  shortfall range.1 value ≤ tolerance ∧ excess value range.2 ≤ tolerance

theorem forall₂_distances_iff {P : Float → Prop} {values lower upper : List Float}
    (hlower : lower.length = values.length) (hupper : upper.length = values.length) :
    List.Forall₂ (fun range value => P (shortfall range.1 value) ∧ P (excess value range.2))
        (lower.zip upper) values ↔
      (∀ d ∈ List.zipWith shortfall lower values, P d) ∧
        ∀ d ∈ List.zipWith excess values upper, P d := by
  induction values generalizing lower upper with
  | nil =>
      cases List.eq_nil_of_length_eq_zero hlower
      simp
  | cons v values ih =>
      obtain ⟨l, lower, rfl⟩ := List.exists_cons_of_length_eq_add_one hlower
      obtain ⟨u, upper, rfl⟩ := List.exists_cons_of_length_eq_add_one hupper
      simp only [List.length_cons, Nat.add_right_cancel_iff] at hlower hupper
      simp only [List.zip_cons_cons, List.zipWith_cons_cons, List.forall₂_cons,
        List.forall_mem_cons, ih hlower hupper]
      tauto

variable {values lower upper : List Float}

theorem violation_isNaN (hlower : lower.length = values.length)
    (hupper : upper.length = values.length)
    (h : List.Forall₂ Comparable (lower.zip upper) values) :
    (violation values lower upper).isNaN = false := by
  obtain ⟨hbelow, habove⟩ :=
    (forall₂_distances_iff (P := (·.isNaN = false)) hlower hupper).1 h
  unfold violation
  split
  · rfl
  · exact later_isNaN (later_isNaN (greatest_isNaN hbelow) (greatest_isNaN habove)) rfl

/-- The worst violation is within a tolerance if and only if all distances are. -/
theorem violation_le_iff (hlower : lower.length = values.length)
    (hupper : upper.length = values.length)
    (h : List.Forall₂ Comparable (lower.zip upper) values) (hz : 0 ≤ z) :
    violation values lower upper ≤ z ↔ List.Forall₂ (Tolerated z) (lower.zip upper) values := by
  obtain ⟨hbelow, habove⟩ :=
    (forall₂_distances_iff (P := (·.isNaN = false)) hlower hupper).1 h
  have hzero : (zero : Float) ≤ z := hz
  refine Iff.trans ?_ (forall₂_distances_iff (P := (· ≤ z)) hlower hupper).symm
  cases values with
  | nil =>
      cases List.eq_nil_of_length_eq_zero hlower
      simpa [violation] using hzero
  | cons v values =>
      obtain ⟨l, lower, rfl⟩ := List.exists_cons_of_length_eq_add_one hlower
      obtain ⟨u, upper, rfl⟩ := List.exists_cons_of_length_eq_add_one hupper
      show later (later (greatest _) (greatest _)) zero ≤ z ↔ _
      rw [later_le_iff (later_isNaN (greatest_isNaN hbelow) (greatest_isNaN habove)) rfl,
        later_le_iff (greatest_isNaN hbelow) (greatest_isNaN habove),
        greatest_le_iff (by simp) hbelow, greatest_le_iff (by simp) habove, and_iff_left hzero]

end Extremum.Measure
