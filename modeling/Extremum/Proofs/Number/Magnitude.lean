import Extremum.Proofs.Number.Difference

/-!
# Magnitudes of floats

The magnitude of a float has the place of the float or of its negative, whichever is positive. So it
is below a positive float exactly if the float lies between that float and its negative.
-/

namespace Extremum.Number

open Float.Model (UnpackedFloat Format)
open Float.Model.UnpackedFloat

theorem unpack_abs (x : Float) : x.abs.toModel.unpack = repacked x.toModel.unpack.abs := rfl

variable {u : UnpackedFloat} {M : Nat} {E : Int}

theorem isNaN_repacked_abs (hu : Canonical u) : (repacked u.abs).isNaN = u.isNaN := by
  cases u with
  | notANumber => rfl
  | infinity s =>
      show (repacked (.infinity .positive)).isNaN = false
      rw [repacked_infinity]
      rfl
  | zero s =>
      show (repacked (.zero .positive)).isNaN = false
      rw [repacked_zero]
      rfl
  | finite s m e hm =>
      show (repacked (.finite .positive m e hm)).isNaN = false
      rw [repacked_finite .positive hm hu]
      split <;> rfl

/-- A magnitude is below a positive float if it belongs between that float and its negative. -/
theorem rank_abs_lt_iff (hu : Canonical u) (hnan : u.isNaN = false) (hE : E ≤ 971) :
    rank (repacked u.abs) < toLex (1, toLex (E, (M : Int))) ↔
      rank u < toLex (1, toLex (E, (M : Int))) ∧ toLex (-1, toLex (-E, -(M : Int))) < rank u := by
  cases u with
  | notANumber => cases hnan
  | infinity s =>
      show rank (repacked (.infinity .positive)) < _ ↔ _
      rw [repacked_infinity]
      cases s <;> simp [rank, Prod.Lex.toLex_lt_toLex]
  | zero s =>
      show rank (repacked (.zero .positive)) < _ ↔ _
      rw [repacked_zero]
      simp [rank, Prod.Lex.toLex_lt_toLex]
  | finite s m e hm =>
      show rank (repacked (.finite .positive m e hm)) < _ ↔ _
      rw [repacked_finite .positive hm hu]
      -- The exponent of a float is never too large, but here it need not be known.
      split
      · cases s with
        | positive => simp [rank, Prod.Lex.toLex_lt_toLex]
        | negative =>
            simp [rank, Prod.Lex.toLex_lt_toLex]
            omega
      · cases s <;> simp [rank, Prod.Lex.toLex_lt_toLex] <;> omega

variable {x t : Float} {hM : 0 < M}

/-- The magnitude of a float is below another float if it lies between it and its negative. -/
theorem abs_lt_iff (ht : t.toModel.unpack = .finite .positive M E hM)
    (hneg : (-t).toModel.unpack = .finite .negative M E hM) (hE : E ≤ 971) :
    x.abs < t ↔ x < t ∧ -t < x := by
  have hu : Canonical x.toModel.unpack := canonical_unpack _
  have hnumber : t.isNaN = false := congrArg isNaN ht
  have hnumber' : (-t).isNaN = false := congrArg isNaN hneg
  have habs : x.abs.isNaN = x.isNaN := isNaN_repacked_abs hu
  rw [lt_iff, lt_iff, lt_iff, habs, hnumber, hnumber', place, place, place, place, unpack_abs, ht,
    hneg]
  constructor
  · rintro ⟨hx, -, hlt⟩
    obtain ⟨hbelow, habove⟩ := (rank_abs_lt_iff hu hx hE).1 hlt
    exact ⟨⟨hx, rfl, hbelow⟩, rfl, hx, habove⟩
  · rintro ⟨⟨hx, -, hbelow⟩, -, -, habove⟩
    exact ⟨hx, rfl, (rank_abs_lt_iff hu hx hE).2 ⟨hbelow, habove⟩⟩

end Extremum.Number
