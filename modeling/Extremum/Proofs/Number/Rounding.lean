import Extremum.Proofs.Number.Order

/-!
# Rounding to floats

A number that is no float is rounded to one of the two floats next to it. A float with an odd
mantissa is never the even one of the two, so rounding stays at or below it exactly as long as the
number is less than half a unit above it.
-/

namespace Extremum.Number

open Float.Model (UnpackedFloat Format totalExponent)
open Float.Model.UnpackedFloat

/-! ## Mantissas -/

/-- A mantissa of which nothing was cut off. -/
def whole (n : Nat) : ExtendedMantissa := ⟨n, false, false⟩

/-- Twice the mantissa with its round bit counts the halves of a shifted number. -/
theorem shift_halves (n k : Nat) :
    2 * (whole n >>> k).mantissa +
      (whole n >>> k).roundBit.toNat = 2 * n / 2 ^ k := by
  induction k with
  | zero => simp [HShiftRight.hShiftRight, Nat.repeat, whole]
  | succ k ih =>
      generalize hem : whole n >>> k = em at ih
      have hstep : whole n >>> (k + 1) = em.shiftRightOne := by
        rw [← hem]
        rfl
      have hbit : (em.mantissa % 2 != 0).toNat = em.mantissa % 2 := by
        rcases Nat.mod_two_eq_zero_or_one em.mantissa with h | h <;> rw [h] <;> rfl
      have hround := em.roundBit.toNat_le
      rw [hstep, pow_succ, ← Nat.div_div_eq_div_mul, ← ih]
      show 2 * (em.mantissa / 2) + (em.mantissa % 2 != 0).toNat = _
      rw [hbit]
      omega

/-- An odd bound is not exceeded unless there are more halves. -/
theorem roundedMantissa_le {em : ExtendedMantissa} {M : Nat} (hM : M % 2 = 1) :
    em.roundedMantissa ≤ M ↔ 2 * em.mantissa + em.roundBit.toNat ≤ 2 * M := by
  rcases em with ⟨m, _ | _, _ | _⟩ <;>
    simp only [ExtendedMantissa.roundedMantissa, ExtendedMantissa.accuracy,
      Accuracy.roundToNearestEven, Bool.toNat_false, Bool.toNat_true] <;> omega

theorem roundedMantissa_bounds (em : ExtendedMantissa) :
    em.mantissa ≤ em.roundedMantissa ∧ em.roundedMantissa ≤ em.mantissa + 1 := by
  rcases em with ⟨m, _ | _, _ | _⟩ <;>
    simp only [ExtendedMantissa.roundedMantissa, ExtendedMantissa.accuracy,
      Accuracy.roundToNearestEven] <;> omega

/-! ## Exponents -/

/-- The exponent that a positive number gets. -/
def target (n : Nat) (e : Int) : Int := max (n.log2 + e - 52) (-1074)

theorem targetExponent_eq (n : Nat) (e : Int) :
    Format.binary64.targetExponent (totalExponent n e) = target n e := by
  simp only [Format.targetExponent, totalExponent, Format.mantissaBits, Format.minExponent, target]
  omega

theorem shiftToTargetExponent_eq (n : Nat) (e : Int) :
    shiftToTargetExponent Format.binary64 n e .exact =
      (whole n >>> (target n e - e).toNat, e + (target n e - e).toNat) := by
  simp only [shiftToTargetExponent, targetExponent_eq]
  rfl

theorem shiftToTargetExponent_of_lt {m : Nat} {e : Int} (hm : m < 2 ^ 53) (he : -1074 ≤ e) :
    shiftToTargetExponent Format.binary64 m e .exact = (whole m, e) := by
  have hlog : m.log2 < 53 := by
    rcases Nat.eq_zero_or_pos m with rfl | hpos
    · decide
    · exact (Nat.log2_lt hpos.ne').2 hm
  have hzero : (target m e - e).toNat = 0 := by
    unfold target
    omega
  rw [shiftToTargetExponent_eq, hzero]
  simp [HShiftRight.hShiftRight, Nat.repeat]

/-- A mantissa that is one too long is halved. -/
theorem shiftToTargetExponent_carry {e : Int} (he : -1074 ≤ e) :
    shiftToTargetExponent Format.binary64 (2 ^ 53) e .exact = (whole (2 ^ 52), e + 1) := by
  have hlog : (2 ^ 53 : Nat).log2 = 53 := Nat.log2_two_pow
  have hone : (target (2 ^ 53) e - e).toNat = 1 := by
    unfold target
    omega
  rw [shiftToTargetExponent_eq, hone]
  rfl

/-! ## Rounding -/

/-- A rounded mantissa with its exponent. -/
def rounded (s : Sign) (r : Nat) (t : Int) : UnpackedFloat :=
  if h : r = 0 then .zero s
  else if r < 2 ^ 53 then .finite s r t (Nat.pos_of_ne_zero h)
  else .finite s (2 ^ 52) (t + 1) (by decide)

theorem log2_lt_of_target (n : Nat) (e : Int) : n < 2 ^ (53 + (target n e - e).toNat) := by
  have hlog : n.log2 + 1 ≤ 53 + (target n e - e).toNat := by
    unfold target
    omega
  exact Nat.lt_of_lt_of_le Nat.lt_log2_self (Nat.pow_le_pow_right (by decide) hlog)

theorem roundedMantissa_le_carry (n : Nat) (e : Int) :
    (whole n >>> (target n e - e).toNat).roundedMantissa ≤ 2 ^ 53 := by
  have hn := log2_lt_of_target n e
  generalize (target n e - e).toNat = k at hn ⊢
  have hhalves := shift_halves n k
  have hbound : 2 * n / 2 ^ k < 2 ^ 54 := by
    rw [Nat.div_lt_iff_lt_mul (by positivity)]
    calc 2 * n < 2 * 2 ^ (53 + k) := by omega
      _ = 2 ^ 54 * 2 ^ k := by ring
  have := (roundedMantissa_bounds (whole n >>> k)).2
  omega

theorem roundWithAccuracy_eq (s : Sign) (n : Nat) (e : Int) :
    roundWithAccuracy Format.binary64 s n e .exact =
      rounded s (whole n >>> (target n e - e).toNat).roundedMantissa
        (e + (target n e - e).toNat) := by
  have hcarry := roundedMantissa_le_carry n e
  have hexponent : -1074 ≤ e + (target n e - e).toNat := by
    unfold target
    omega
  unfold roundWithAccuracy rounded
  rw [shiftToTargetExponent_eq]
  dsimp only
  generalize (whole n >>> (target n e - e).toNat).roundedMantissa = r at hcarry ⊢
  generalize e + (target n e - e).toNat = t at hexponent ⊢
  by_cases hr : r < 2 ^ 53
  · rw [shiftToTargetExponent_of_lt hr hexponent]
    simp only [whole, hr, ↓reduceIte]
    rfl
  · obtain rfl : r = 2 ^ 53 := by omega
    rw [shiftToTargetExponent_carry hexponent]
    rfl

theorem target_shiftLeft {n : Nat} (hn : 0 < n) (e : Int) (a : Nat) :
    target (n * 2 ^ a) (e - a) = target n e := by
  have hlog : (n * 2 ^ a).log2 = n.log2 + a := by
    rw [Nat.log2_eq_iff (by positivity)]
    constructor
    · rw [pow_add]
      exact Nat.mul_le_mul_right _ (Nat.log2_self_le hn.ne')
    · rw [show n.log2 + a + 1 = n.log2 + 1 + a by omega, pow_add]
      exact Nat.mul_lt_mul_of_pos_right Nat.lt_log2_self (by positivity)
  unfold target
  omega

/-- Halves of shifted numbers compare like the exact values. -/
theorem halves_lt_iff {n a k M : Nat} {e t : Int} (h : e - a + k = t) :
    2 * (n * 2 ^ a) < (2 * M + 1) * 2 ^ k ↔ (n : ℚ) * 2 ^ e < (2 * M + 1) * 2 ^ (t - 1) := by
  have hleft : (n : ℚ) * 2 ^ e = (2 * (n * 2 ^ a) : ℕ) * 2 ^ (t - 1 - k) := by
    rw [show e = 1 + a + (t - 1 - k) by omega, zpow_add₀ two_ne_zero, zpow_add₀ two_ne_zero,
      zpow_natCast]
    push_cast
    ring
  have hright : ((2 : ℚ) * M + 1) * 2 ^ (t - 1) =
      ((2 * M + 1) * 2 ^ k : ℕ) * 2 ^ (t - 1 - k) := by
    rw [show t - 1 = k + (t - 1 - k) by omega, zpow_add₀ two_ne_zero, zpow_natCast,
      show (k : Int) + (t - 1 - k) - k = t - 1 - k by omega]
    push_cast
    ring
  rw [hleft, hright, mul_lt_mul_iff_left₀ (by positivity), Nat.cast_lt]

/-- How a positive number is rounded, and when the result is at most an odd mantissa. -/
theorem exists_round (s : Sign) {n : Nat} (hn : 0 < n) (e : Int) :
    ∃ r, UnpackedFloat.round Format.binary64 s n e = rounded s r (target n e) ∧ r ≤ 2 ^ 53 ∧
      (-1074 < target n e → 2 ^ 52 ≤ r) ∧
      ∀ M : Nat, M % 2 = 1 →
        (r ≤ M ↔ (n : ℚ) * 2 ^ e < (2 * M + 1) * 2 ^ (target n e - 1)) := by
  generalize ha : (e - target n e).toNat = a
  have htarget := target_shiftLeft hn e a
  generalize hk : (target n e - (e - a)).toNat = k
  have hsum : e - a + k = target n e := by omega
  have hround : UnpackedFloat.round Format.binary64 s n e =
      rounded s (whole (n * 2 ^ a) >>> k).roundedMantissa (target n e) := by
    unfold UnpackedFloat.round decreaseExponent
    rw [targetExponent_eq]
    dsimp only
    rw [ha, Nat.shiftLeft_eq, roundWithAccuracy_eq, htarget, hk, hsum]
  have hhalves := shift_halves (n * 2 ^ a) k
  have hcarry := roundedMantissa_le_carry (n * 2 ^ a) (e - a)
  rw [htarget, hk] at hcarry
  refine ⟨_, hround, hcarry, fun ht => ?_, fun M hM => ?_⟩
  · -- no bits are missing in front
    have hmax : target n e = max (((n * 2 ^ a).log2 : Int) + (e - a) - 52) (-1074) := htarget.symm
    have hlog : (n * 2 ^ a).log2 = 52 + k := by omega
    have hpow := Nat.log2_self_le (n := n * 2 ^ a) (by positivity)
    have hbound : 2 ^ 53 ≤ 2 * (n * 2 ^ a) / 2 ^ k := by
      rw [Nat.le_div_iff_mul_le (by positivity)]
      calc 2 ^ 53 * 2 ^ k = 2 * 2 ^ (52 + k) := by ring
        _ ≤ 2 * (n * 2 ^ a) := by rw [← hlog]; omega
    have := (roundedMantissa_bounds (whole (n * 2 ^ a) >>> k)).1
    have := (whole (n * 2 ^ a) >>> k).roundBit.toNat_le
    omega
  · rw [roundedMantissa_le hM, hhalves, ← Nat.lt_succ_iff, Nat.div_lt_iff_lt_mul (by positivity)]
    exact halves_lt_iff hsum

/-! ## Packing -/

theorem toNat_implicit (m : BitVec 52) : (1#1 ++ m).toNat = 2 ^ 52 + m.toNat := by
  rw [BitVec.toNat_append, ← Nat.shiftLeft_add_eq_or_of_lt m.isLt]
  rfl

theorem unpack_packComponents (s : Sign) (e : BitVec 11) (m : BitVec 52) :
    unpack Format.binary64 (packComponents Format.binary64 s e m) =
      if e = -1#11 then if m = 0#52 then .infinity s else .notANumber
      else if e = 0#11 then
        if h : m = 0#52 then .zero s
        else .finite s m.toNat ((e.toNat : Int) - 1075 + 1)
          (by simpa [BitVec.toNat_pos, BitVec.pos_iff_ne_zero] using h)
      else .finite s (1#1 ++ m).toNat ((e.toNat : Int) - 1075) (by rw [toNat_implicit]; omega) := by
  unfold unpack
  simp only [unpackMantissa_packComponents, unpackExponent_packComponents,
    unpackSign_packComponents, Sign.ofBitVec_toBitVec]
  rfl

theorem unpack_packedInfinity (s : Sign) :
    unpack Format.binary64 (packedInfinity Format.binary64 s) = .infinity s := by
  cases s <;> rfl

/-- A float in the right form is packed without loss, unless its exponent is too large. -/
theorem unpack_pack_finite (s : Sign) {m : Nat} {e : Int} (hm : 0 < m) (hlt : m < 2 ^ 53)
    (he : -1074 ≤ e) (hcanonical : 2 ^ 52 ≤ m ∨ e = -1074) :
    unpack Format.binary64 (pack Format.binary64 (.finite s m e hm)) =
      if e ≤ 971 then .finite s m e hm else .infinity s := by
  have hpack : pack Format.binary64 (.finite s m e hm) =
      if 2 ^ 11 ≤ (e + 1023 + 52).toNat + 1 then packedInfinity Format.binary64 s
      else if m.log2 + 1 = 53 then
        packComponents Format.binary64 s (BitVec.ofNat 11 (e + 1023 + 52).toNat) (BitVec.ofNat 52 m)
      else packComponents Format.binary64 s 0#11 (BitVec.ofNat 52 m) := rfl
  rw [hpack]
  by_cases hbig : 971 < e
  · rw [if_pos (by omega), if_neg (by omega), unpack_packedInfinity]
  rw [if_neg (by omega), if_pos (by omega : e ≤ 971)]
  by_cases hnormal : 2 ^ 52 ≤ m
  · have hlog : m.log2 = 52 := (Nat.log2_eq_iff hm.ne').2 ⟨hnormal, hlt⟩
    have hexp : (BitVec.ofNat 11 (e + 1023 + 52).toNat).toNat = (e + 1075).toNat := by
      rw [BitVec.toNat_ofNat]
      omega
    have hmantissa : (1#1 ++ BitVec.ofNat 52 m).toNat = m := by
      rw [toNat_implicit, BitVec.toNat_ofNat]
      omega
    have hnotTop : BitVec.ofNat 11 (e + 1023 + 52).toNat ≠ -1#11 := by
      intro h
      rw [h] at hexp
      have : (-1#11 : BitVec 11).toNat = 2047 := rfl
      omega
    have hnotZero : BitVec.ofNat 11 (e + 1023 + 52).toNat ≠ 0#11 := by
      intro h
      rw [h] at hexp
      have : (0#11 : BitVec 11).toNat = 0 := rfl
      omega
    rw [if_pos (by omega), unpack_packComponents, if_neg hnotTop, if_neg hnotZero]
    simp only [hmantissa, hexp]
    congr 1
    omega
  · have hsub : e = -1074 := by omega
    have hlog : m.log2 < 52 := (Nat.log2_lt hm.ne').2 (by omega)
    have hmantissa : (BitVec.ofNat 52 m).toNat = m := by
      rw [BitVec.toNat_ofNat]
      omega
    have hnotZero : BitVec.ofNat 52 m ≠ 0#52 := by
      intro h
      rw [h] at hmantissa
      have : (0#52 : BitVec 52).toNat = 0 := rfl
      omega
    rw [if_neg (by omega), unpack_packComponents, if_neg (by decide), if_pos rfl,
      dif_neg hnotZero]
    simp only [hmantissa, hsub]
    rfl

end Extremum.Number
