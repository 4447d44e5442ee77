import Mathlib
import Extremum.Text.Lowercase

/-!
# Lower case and the letters of ASCII

The full lower-case form of a text does not change when the capital letters among its ASCII
characters are made small first.
-/

namespace Extremum.Text

/-- Two texts differ at most in the case of ASCII letters. -/
def SameLetters (s t : String) : Prop := s.toLower = t.toLower

theorem sameLetters_iff {s t : String} :
    SameLetters s t ↔ s.toList.map Char.toLower = t.toList.map Char.toLower := by
  rw [SameLetters, ← String.toList_inj, String.toLower, String.toLower, String.toList_map,
    String.toList_map]

instance (s t : String) : Decidable (SameLetters s t) := decidable_of_iff _ sameLetters_iff.symm

theorem SameLetters.symm {s t : String} (h : SameLetters s t) : SameLetters t s := Eq.symm h

variable {c : Char}

/-! ## One character -/

/-- The capital letters of ASCII, counted from zero. -/
def capital (i : Nat) : Char := Char.ofNat (65 + i)

theorem exists_capital (h : c.isUpper = true) : ∃ i < 26, c = capital i := by
  have hcode : 65 ≤ c.toNat ∧ c.toNat ≤ 90 := by
    simpa [Char.isUpper, UInt32.le_iff_toNat_le] using h
  refine ⟨c.toNat - 65, by omega, ?_⟩
  rw [capital, Nat.add_sub_cancel' hcode.1, Char.ofNat_toNat]

/-- What does not tell capitals from their small forms tells no characters from theirs. -/
theorem toLower_invariant {α : Type} {f : Char → α}
    (h : ∀ i < 26, f (capital i).toLower = f (capital i)) (c : Char) : f c.toLower = f c := by
  by_cases hc : c.isUpper = true
  · obtain ⟨i, hi, rfl⟩ := exists_capital hc
    exact h i hi
  · rw [Char.toLower_eq_of_not_isUpper hc]

theorem lowerChar_toLower (c : Char) : lowerChar c.toLower = lowerChar c :=
  toLower_invariant (by decide +kernel) c

theorem isCased_toLower (c : Char) : isCased c.toLower = isCased c :=
  toLower_invariant (by decide +kernel) c

theorem isCaseIgnorable_toLower (c : Char) : isCaseIgnorable c.toLower = isCaseIgnorable c :=
  toLower_invariant (by decide +kernel) c

theorem toLower_eq_sigma (c : Char) : (c.toLower.toNat = 0x3A3) = (c.toNat = 0x3A3) :=
  propext (decide_eq_decide.1
    (toLower_invariant (f := fun c => decide (c.toNat = 0x3A3)) (by decide +kernel) c))

theorem toLower_ne_slash (c : Char) : decide (c.toLower ≠ '/') = decide (c ≠ '/') :=
  toLower_invariant (f := fun c => decide (c ≠ '/')) (by decide +kernel) c

/-! ## Texts -/

theorem dropWhile_toLower {keeps : Char → Bool} (h : ∀ c, keeps c.toLower = keeps c)
    (cs : List Char) :
    (cs.map Char.toLower).dropWhile keeps = (cs.dropWhile keeps).map Char.toLower := by
  rw [List.dropWhile_map, show keeps ∘ Char.toLower = keeps from funext h]

theorem takeWhile_toLower {keeps : Char → Bool} (h : ∀ c, keeps c.toLower = keeps c)
    (cs : List Char) :
    (cs.map Char.toLower).takeWhile keeps = (cs.takeWhile keeps).map Char.toLower := by
  rw [List.takeWhile_map, show keeps ∘ Char.toLower = keeps from funext h]

theorem toLower_ofList (cs : List Char) :
    (String.ofList cs).toLower = String.ofList (cs.map Char.toLower) := by
  apply String.toList_injective
  simp [String.toLower]

theorem meetsCased_toLower (cs : List Char) : meetsCased (cs.map Char.toLower) = meetsCased cs := by
  unfold meetsCased
  rw [dropWhile_toLower isCaseIgnorable_toLower]
  cases cs.dropWhile isCaseIgnorable with
  | nil => rfl
  | cons c rest => exact isCased_toLower c

theorem lowerAfter_toLower (before cs : List Char) :
    lowerAfter (before.map Char.toLower) (cs.map Char.toLower) = lowerAfter before cs := by
  induction cs generalizing before with
  | nil => rfl
  | cons c rest ih =>
      have hrest := ih (c :: before)
      rw [List.map_cons] at hrest
      simp only [List.map_cons, lowerAfter, toLower_eq_sigma, lowerChar_toLower,
        meetsCased_toLower, hrest]

theorem lowercase_toLower (s : String) : lowercase s.toLower = lowercase s := by
  unfold lowercase String.toLower
  rw [String.toList_map]
  exact congrArg String.ofList (lowerAfter_toLower [] s.toList)

theorem SameLetters.lowercase_eq {s t : String} (h : SameLetters s t) :
    lowercase s = lowercase t := by
  rw [← lowercase_toLower s, h, lowercase_toLower t]

end Extremum.Text
