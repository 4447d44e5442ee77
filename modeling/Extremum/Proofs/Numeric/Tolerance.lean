import Extremum.Numeric.Outcome
import Extremum.Proofs.Problem.Limits

/-!
# Values within limits up to the tolerance

Whether the distances of a value from its limits tell that the value is within them. They do not for
NaN, for an infinite limit on the wrong side, and where rounding hides an excess over the tolerance;
in all other cases they do.
-/

namespace Extremum.Numeric

open Number Extremum.Measure

/-! ## Limits up to the tolerance -/

/-- A number is at most another one, up to the tolerance, in exact arithmetic. -/
def NearlyAtMost (x y : Float) : Prop :=
  if x.isFinite ∧ y.isFinite then exact x ≤ exact y + exact feasibilityTolerance else x ≤ y

/-- A value lies within its limits up to the tolerance. It is not NaN then. -/
def NearlyWithin (range : Float × Float) (value : Float) : Prop :=
  NearlyAtMost range.1 value ∧ NearlyAtMost value range.2

/-- A number exceeds another one by more than the tolerance, but rounding hides it. -/
def Blurred (x y : Float) : Prop :=
  exact feasibilityTolerance < exact x - exact y ∧
    exact x - exact y < exact feasibilityTolerance + 2 ^ (-73 : ℤ)

/-- The distances of a value from its limits tell whether it lies within them. -/
structure Judgeable (range : Float × Float) (value : Float) : Prop where
  isNaN : value.isNaN = false
  lower : range.1.isFinite = false → range.1 ≤ value
  upper : range.2.isFinite = false → value ≤ range.2
  lower_sharp : range.1.isFinite = true → value.isFinite = true → ¬ Blurred range.1 value
  upper_sharp : value.isFinite = true → range.2.isFinite = true → ¬ Blurred value range.2

theorem unpack_feasibilityTolerance : feasibilityTolerance.toModel.unpack =
    .finite .positive 4722366482869645 (-72) (by decide) := rfl

theorem isFinite_feasibilityTolerance : feasibilityTolerance.isFinite = true := rfl

theorem exact_feasibilityTolerance :
    exact feasibilityTolerance = 4722366482869645 * 2 ^ (-72 : ℤ) := by
  rw [exact, unpack_feasibilityTolerance]
  simp [exactOf, Float.Model.UnpackedFloat.Sign.apply]

variable {x y lower upper value : Float} {range : Float × Float}

theorem sub_le_feasibilityTolerance_iff (hx : x.isFinite = true) (hy : y.isFinite = true) :
    x - y ≤ feasibilityTolerance ↔
      exact x - exact y < exact feasibilityTolerance + 2 ^ (-73 : ℤ) :=
  sub_le_iff hx hy unpack_feasibilityTolerance (by decide) (by decide) (by decide)

theorem sub_isNaN_of_isFinite (hx : x.isNaN = false) (hy : y.isNaN = false)
    (h : x.isFinite = true ∨ y.isFinite = true) : (x - y).isNaN = false := by
  by_cases heq : x.isFinite = y.isFinite
  · rw [← heq, or_self] at h
    exact sub_isNaN h (heq ▸ h)
  · exact (sub_le_iff_of_infinite hx hy heq).1

/-- As long as one of two numbers is finite, rounding is all that the distance hides. -/
theorem nearlyAtMost_iff (hx : x.isNaN = false) (hy : y.isNaN = false)
    (h : x.isFinite = true ∨ y.isFinite = true) :
    NearlyAtMost x y ↔ (x.isFinite = true → y.isFinite = true → ¬ Blurred x y) ∧
      x - y ≤ feasibilityTolerance := by
  unfold NearlyAtMost
  by_cases heq : x.isFinite = y.isFinite
  · rw [← heq, or_self] at h
    have hfinite : y.isFinite = true := heq ▸ h
    rw [if_pos ⟨h, hfinite⟩, sub_le_feasibilityTolerance_iff h hfinite, ← sub_le_iff_le_add']
    simp only [h, hfinite, true_imp_iff, Blurred]
    constructor
    · intro hle
      have hpos : (0 : ℚ) < 2 ^ (-73 : ℤ) := by positivity
      exact ⟨fun hblurred => hblurred.1.not_ge hle, by linarith⟩
    · rintro ⟨hsharp, hlt⟩
      exact not_lt.1 fun hgt => hsharp ⟨hgt, hlt⟩
  · have hone : ¬ (x.isFinite = true ∧ y.isFinite = true) :=
      fun hboth => heq (hboth.1.trans hboth.2.symm)
    rw [if_neg hone, (sub_le_iff_of_infinite hx hy heq).2 _ isFinite_feasibilityTolerance]
    exact (and_iff_right fun hxf hyf => absurd ⟨hxf, hyf⟩ hone).symm

theorem nearlyAtMost_of_infinite (h : x.isFinite = false ∨ y.isFinite = false) :
    NearlyAtMost x y ↔ x ≤ y := by
  unfold NearlyAtMost
  rw [if_neg]
  rintro ⟨hx, hy⟩
  rw [hx, hy] at h
  rcases h with h | h <;> cases h

theorem nearlyAtMost_self (hx : x.isFinite = true) : NearlyAtMost x x := by
  rw [NearlyAtMost, if_pos ⟨hx, hx⟩, exact_feasibilityTolerance]
  exact le_add_of_nonneg_right (by positivity)

/-! ## Distances of a value from its limits -/

theorem zero_le_feasibilityTolerance : (zero : Float) ≤ feasibilityTolerance := by
  decide

theorem shortfall_of_finite (h : lower.isFinite = true) :
    shortfall lower value = lower - value := if_pos h

theorem shortfall_of_infinite (h : lower.isFinite = false) : shortfall lower value = zero :=
  if_neg (Bool.eq_false_iff.1 h)

theorem excess_of_finite (h : upper.isFinite = true) : excess value upper = value - upper :=
  if_pos h

theorem excess_of_infinite (h : upper.isFinite = false) : excess value upper = zero :=
  if_neg (Bool.eq_false_iff.1 h)

theorem isNaN_of_nearlyAtMost_right (h : NearlyAtMost x y) : y.isNaN = false := by
  unfold NearlyAtMost at h
  split at h
  · rename_i hfinite
    exact isNaN_of_isFinite hfinite.2
  · exact Number.isNaN_right h

theorem nearlyAtMost_iff_shortfall (hv : value.isNaN = false) :
    NearlyAtMost lower value ↔ (lower.isFinite = false → lower ≤ value) ∧
      (lower.isFinite = true → value.isFinite = true → ¬ Blurred lower value) ∧
      shortfall lower value ≤ feasibilityTolerance := by
  cases hl : lower.isFinite with
  | true =>
      rw [nearlyAtMost_iff (isNaN_of_isFinite hl) hv (.inl hl), shortfall_of_finite hl]
      simp [hl]
  | false =>
      rw [nearlyAtMost_of_infinite (.inl hl), shortfall_of_infinite hl]
      simp [zero_le_feasibilityTolerance]

theorem nearlyAtMost_iff_excess (hv : value.isNaN = false) :
    NearlyAtMost value upper ↔ (upper.isFinite = false → value ≤ upper) ∧
      (value.isFinite = true → upper.isFinite = true → ¬ Blurred value upper) ∧
      excess value upper ≤ feasibilityTolerance := by
  cases hu : upper.isFinite with
  | true =>
      rw [nearlyAtMost_iff hv (isNaN_of_isFinite hu) (.inr hu), excess_of_finite hu]
      simp [hu]
  | false =>
      rw [nearlyAtMost_of_infinite (.inr hu), excess_of_infinite hu]
      simp [zero_le_feasibilityTolerance]

/-- Within the limits are the values that can be judged and whose distances are tolerated. -/
theorem nearlyWithin_iff : NearlyWithin range value ↔
    Judgeable range value ∧ Tolerated feasibilityTolerance range value := by
  constructor
  · rintro ⟨hlower, hupper⟩
    have hv := isNaN_of_nearlyAtMost_right hlower
    obtain ⟨hl, hls, hshort⟩ := (nearlyAtMost_iff_shortfall hv).1 hlower
    obtain ⟨hu, hus, hexc⟩ := (nearlyAtMost_iff_excess hv).1 hupper
    exact ⟨⟨hv, hl, hu, hls, hus⟩, hshort, hexc⟩
  · rintro ⟨h, hshort, hexc⟩
    exact ⟨(nearlyAtMost_iff_shortfall h.isNaN).2 ⟨h.lower, h.lower_sharp, hshort⟩,
      (nearlyAtMost_iff_excess h.isNaN).2 ⟨h.upper, h.upper_sharp, hexc⟩⟩

theorem shortfall_isNaN (hv : value.isNaN = false) : (shortfall lower value).isNaN = false := by
  cases hl : lower.isFinite with
  | true =>
      rw [shortfall_of_finite hl]
      exact sub_isNaN_of_isFinite (isNaN_of_isFinite hl) hv (.inl hl)
  | false =>
      rw [shortfall_of_infinite hl]
      rfl

theorem excess_isNaN (hv : value.isNaN = false) : (excess value upper).isNaN = false := by
  cases hu : upper.isFinite with
  | true =>
      rw [excess_of_finite hu]
      exact sub_isNaN_of_isFinite hv (isNaN_of_isFinite hu) (.inr hu)
  | false =>
      rw [excess_of_infinite hu]
      rfl

theorem Judgeable.comparable (h : Judgeable range value) : Measure.Comparable range value :=
  ⟨shortfall_isNaN h.isNaN, excess_isNaN h.isNaN⟩

end Extremum.Numeric
