import Extremum.Proofs.Number.Difference

/-!
# Signs of floats

The negative of a float has the same magnitude and the other sign. So the negative of a float times
one is the float times minus one, and infinities, zeros and NaN are no exceptions.
-/

namespace Extremum.Number

open Float.Model (UnpackedFloat Format)
open Float.Model.UnpackedFloat

/-- The exponent of a finite float is not too large to be packed. -/
def Bounded : UnpackedFloat → Prop
  | .finite _ _ e _ => e ≤ 971
  | _ => True

/-- The greatest exponent field of all is that of infinities and NaN. -/
theorem bounded_unpack (b : BitVec 64) : Bounded (unpack Format.binary64 b) := by
  unfold unpack
  dsimp only
  split
  · split <;> trivial
  · rename_i hspecial
    split
    · -- numbers near zero all have the least exponent
      split
      · trivial
      · rename_i hzero _
        rw [hzero]
        show (-1074 : Int) ≤ 971
        decide
    · have hlt : (@unpackExponent Format.binary64 b).toNat < 2 ^ 11 := BitVec.isLt _
      have hne : (@unpackExponent Format.binary64 b).toNat ≠ 2047 := fun h =>
        hspecial (BitVec.eq_of_toNat_eq h)
      show ((@unpackExponent Format.binary64 b).toNat : Int) - 1075 ≤ 971
      omega

theorem unpack_neg (x : Float) : (-x).toModel.unpack = x.toModel.unpack.neg := by
  -- the negative is packed again, which changes nothing in a float that was unpacked
  have hcanonical : Canonical x.toModel.unpack := canonical_unpack _
  have hbounded : Bounded x.toModel.unpack := bounded_unpack _
  show repacked x.toModel.unpack.neg = _
  cases hx : x.toModel.unpack with
  | notANumber => rfl
  | infinity s => exact repacked_infinity (-s)
  | zero s => exact repacked_zero (-s)
  | finite s m e hm =>
      rw [hx] at hcanonical hbounded
      exact (repacked_finite (-s) hm hcanonical).trans (if_pos hbounded)

/-- The sign of a product with one or minus one comes from both factors. -/
theorem mul_neg_of_unit {M : Nat} (hM : 0 < M) (E : Int) (u : UnpackedFloat) :
    UnpackedFloat.mul Format.binary64 (.finite .positive M E hM) u.neg =
      UnpackedFloat.mul Format.binary64 (.finite .negative M E hM) u := by
  cases u with
  | notANumber => rfl
  | infinity s | zero s | finite s _ _ _ => cases s <;> rfl

theorem one_mul_neg (x : Float) : 1 * -x = -1 * x := by
  have hone : (1 : Float).toModel.unpack = .finite .positive (2 ^ 52) (-52) (by decide) := rfl
  have hminus : (-1 : Float).toModel.unpack = .finite .negative (2 ^ 52) (-52) (by decide) := rfl
  have hproduct : UnpackedFloat.mul Format.binary64 (1 : Float).toModel.unpack (-x).toModel.unpack =
      UnpackedFloat.mul Format.binary64 (-1 : Float).toModel.unpack x.toModel.unpack := by
    rw [hone, hminus, unpack_neg, mul_neg_of_unit]
  exact congrArg (fun u => Float.ofModel (.pack u)) hproduct

end Extremum.Number
