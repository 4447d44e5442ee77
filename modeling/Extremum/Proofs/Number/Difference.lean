import Extremum.Proofs.Number.Rounding

/-!
# Differences of floats

The difference of two finite floats is a float, never NaN, rounded from the exact difference. It is
at most a float with an odd mantissa if and only if the exact difference is less than half a unit
above that float. If one of the two floats is infinite, so is their difference.
-/

namespace Extremum.Number

open Float.Model (UnpackedFloat Format)
open Float.Model.UnpackedFloat

/-! ## Exact values -/

/-- The exact value of an unpacked float; that of infinities and NaN has no meaning. -/
def exactOf : UnpackedFloat → ℚ
  | .finite s m e _ => s.apply m * 2 ^ e
  | _ => 0

def exact (x : Float) : ℚ := exactOf x.toModel.unpack

/-- The form that finite floats have after unpacking. -/
def Canonical : UnpackedFloat → Prop
  | .finite _ m e _ => m < 2 ^ 53 ∧ -1074 ≤ e ∧ (2 ^ 52 ≤ m ∨ e = -1074)
  | _ => True

theorem canonical_unpack (b : BitVec 64) : Canonical (unpack Format.binary64 b) := by
  have hm : (@unpackMantissa Format.binary64 b).toNat < 2 ^ 52 := BitVec.isLt _
  unfold unpack
  dsimp only
  split
  · split <;> trivial
  · split
    · rename_i hzero
      split
      · trivial
      · rw [hzero]
        exact ⟨by omega, by decide, .inr rfl⟩
    · rename_i hzero
      have hpos : (@unpackExponent Format.binary64 b).toNat ≠ 0 :=
        fun h => hzero (BitVec.eq_of_toNat_eq h)
      have hmantissa := toNat_implicit (@unpackMantissa Format.binary64 b)
      refine ⟨?_, ?_, .inl ?_⟩
      · exact hmantissa ▸ (by omega)
      · show (-1074 : Int) ≤ ((@unpackExponent Format.binary64 b).toNat : Int) - 1075
        omega
      · exact hmantissa ▸ (by omega)

/-! ## Rounded values -/

def repacked (u : UnpackedFloat) : UnpackedFloat :=
  unpack Format.binary64 (pack Format.binary64 u)

theorem repacked_zero (s : Sign) : repacked (.zero s) = .zero s := unpack_packedZero

theorem repacked_infinity (s : Sign) : repacked (.infinity s) = .infinity s :=
  unpack_packedInfinity s

/-- Packing turns an unpacked float into a float that is rounded from a number. -/
structure RoundsFrom (u : UnpackedFloat) (q : ℚ) : Prop where
  isNaN : (repacked u).isNaN = false
  rank_le : ∀ (M : Nat) (E : Int), 2 ^ 52 ≤ M → M < 2 ^ 53 → M % 2 = 1 → -1074 ≤ E → E ≤ 970 →
    (rank (repacked u) ≤ toLex (1, toLex (E, (M : Int))) ↔ q < (2 * M + 1) * 2 ^ (E - 1))

theorem toLex_le_positive {k : Int} (hk : k < 1) (p q : Int ×ₗ Int) :
    toLex (k, p) ≤ toLex (1, q) := Prod.Lex.toLex_le_toLex.2 (.inl hk)

theorem half_pos (M : Nat) (E : Int) : (0 : ℚ) < (2 * M + 1) * 2 ^ (E - 1) := by positivity

theorem RoundsFrom.of_zero (s : Sign) : RoundsFrom (.zero s) 0 := by
  refine ⟨by rw [repacked_zero]; rfl, fun M E _ _ _ _ _ => ?_⟩
  rw [repacked_zero]
  exact iff_of_true (toLex_le_positive (by decide) _ _) (half_pos M E)

theorem repacked_finite (s : Sign) {m : Nat} {e : Int} (hm : 0 < m)
    (h : Canonical (.finite s m e hm)) :
    repacked (.finite s m e hm) = if e ≤ 971 then .finite s m e hm else .infinity s :=
  unpack_pack_finite s hm h.1 h.2.1 h.2.2

theorem RoundsFrom.of_negative {m : Nat} {e : Int} (hm : 0 < m)
    (h : Canonical (.finite .negative m e hm)) {q : ℚ} (hq : q < 0) :
    RoundsFrom (.finite .negative m e hm) q := by
  have hrepacked := repacked_finite .negative hm h
  refine ⟨?_, fun M E _ _ _ _ _ => ?_⟩
  · rw [hrepacked]
    split <;> rfl
  · refine iff_of_true ?_ (hq.trans (half_pos M E))
    rw [hrepacked]
    split <;> exact toLex_le_positive (by decide) _ _

/-- The place of a positive result that carries no further than its target exponent. -/
theorem rank_rounded_le {r : Nat} {t E : Int} {M : Nat} (hr : r ≤ 2 ^ 53) (ht : -1074 ≤ t)
    (hfull : -1074 < t → 2 ^ 52 ≤ r) (hM : 2 ^ 52 ≤ M) (hM' : M < 2 ^ 53) (hE : -1074 ≤ E)
    (hE' : E ≤ 970) :
    (repacked (rounded .positive r t)).isNaN = false ∧
      (rank (repacked (rounded .positive r t)) ≤ toLex (1, toLex (E, (M : Int))) ↔
        t < E ∨ t = E ∧ r ≤ M) := by
  have hfinite : ∀ (m : Nat) (e : Int) (hm : 0 < m), Canonical (.finite .positive m e hm) →
      (repacked (.finite .positive m e hm)).isNaN = false ∧
      (rank (repacked (.finite .positive m e hm)) ≤ toLex (1, toLex (E, (M : Int))) ↔
        e < E ∨ e = E ∧ m ≤ M) := by
    intro m e hm hc
    rw [repacked_finite .positive hm hc]
    split
    · refine ⟨rfl, ?_⟩
      simp [rank, Prod.Lex.toLex_le_toLex]
    · -- an overflow to infinity, which is above the bound as its exponent is
      refine ⟨rfl, ?_⟩
      simp [rank, Prod.Lex.toLex_le_toLex]
      omega
  unfold rounded
  split
  · rename_i hzero
    rw [repacked_zero]
    refine ⟨rfl, iff_of_true (toLex_le_positive (by decide) _ _) ?_⟩
    omega
  · split
    · rename_i hlt
      exact hfinite r t _ ⟨hlt, ht, by omega⟩
    · obtain ⟨hnan, hle⟩ := hfinite (2 ^ 52) (t + 1) (by decide) ⟨by decide, by omega, .inl le_rfl⟩
      refine ⟨hnan, hle.trans ?_⟩
      omega

/-- A number is below half a unit above `M · 2^E` if its target exponent is less than `E`. -/
theorem lt_half_of_target_lt {n M : Nat} {e E : Int} (ht : target n e < E) (hM : 2 ^ 52 ≤ M) :
    (n : ℚ) * 2 ^ e < (2 * M + 1) * 2 ^ (E - 1) := by
  have hlog : (n.log2 : Int) + 1 + e ≤ 53 + (E - 1) := by
    unfold target at ht
    omega
  have hn : (n : ℚ) < 2 ^ ((n.log2 : Int) + 1) := by
    exact_mod_cast Nat.lt_log2_self (n := n)
  have hM' : ((2 : ℚ) ^ (53 : Int)) < 2 * M + 1 := by
    have : 2 ^ 53 < 2 * M + 1 := by omega
    exact_mod_cast this
  calc (n : ℚ) * 2 ^ e < 2 ^ ((n.log2 : Int) + 1) * 2 ^ e := by gcongr
    _ = 2 ^ ((n.log2 : Int) + 1 + e) := (zpow_add₀ two_ne_zero _ _).symm
    _ ≤ 2 ^ (53 + (E - 1)) := zpow_le_zpow_right₀ (by norm_num) hlog
    _ = 2 ^ (53 : Int) * 2 ^ (E - 1) := zpow_add₀ two_ne_zero _ _
    _ < (2 * M + 1) * 2 ^ (E - 1) := by gcongr

theorem half_le_of_lt_target {n M : Nat} {e E : Int} (hn : 0 < n) (ht : E < target n e)
    (hE : -1074 ≤ E) (hM : M < 2 ^ 53) :
    (2 * M + 1) * 2 ^ (E - 1) ≤ (n : ℚ) * 2 ^ e := by
  have hlog : 54 + (E - 1) ≤ (n.log2 : Int) + e := by
    unfold target at ht
    omega
  have hn' : (2 : ℚ) ^ (n.log2 : Int) ≤ n := by
    exact_mod_cast Nat.log2_self_le hn.ne'
  have hM' : (2 * M + 1 : ℚ) ≤ 2 ^ (54 : Int) := by
    have : 2 * M + 1 ≤ 2 ^ 54 := by omega
    exact_mod_cast this
  calc (2 * M + 1 : ℚ) * 2 ^ (E - 1) ≤ 2 ^ (54 : Int) * 2 ^ (E - 1) := by gcongr
    _ = 2 ^ (54 + (E - 1)) := (zpow_add₀ two_ne_zero _ _).symm
    _ ≤ 2 ^ ((n.log2 : Int) + e) := zpow_le_zpow_right₀ (by norm_num) hlog
    _ = 2 ^ (n.log2 : Int) * 2 ^ e := zpow_add₀ two_ne_zero _ _
    _ ≤ n * 2 ^ e := by gcongr

theorem RoundsFrom.of_target {n r : Nat} {e : Int} (hn : 0 < n) (hr : r ≤ 2 ^ 53)
    (hfull : -1074 < target n e → 2 ^ 52 ≤ r)
    (hle : ∀ M : Nat, M % 2 = 1 →
      (r ≤ M ↔ (n : ℚ) * 2 ^ e < (2 * M + 1) * 2 ^ (target n e - 1))) :
    RoundsFrom (rounded .positive r (target n e)) (n * 2 ^ e) := by
  have ht : -1074 ≤ target n e := le_max_right _ _
  refine ⟨(rank_rounded_le hr ht hfull le_rfl (by decide) le_rfl (by decide)).1, ?_⟩
  intro M E hM hM' hodd hE hE'
  rw [(rank_rounded_le hr ht hfull hM hM' hE hE').2]
  rcases lt_trichotomy (target n e) E with hlt | heq | hgt
  · exact iff_of_true (.inl hlt) (lt_half_of_target_lt hlt hM)
  · rw [← heq, ← hle M hodd]
    simp
  · refine iff_of_false (by omega) ?_
    exact (half_le_of_lt_target hn hgt hE hM').not_gt

theorem RoundsFrom.of_round {n : Nat} (hn : 0 < n) (e : Int) :
    RoundsFrom (UnpackedFloat.round Format.binary64 .positive n e) (n * 2 ^ e) := by
  obtain ⟨r, hround, hr, hfull, hle⟩ := exists_round .positive hn e
  rw [hround]
  exact .of_target hn hr hfull hle

theorem RoundsFrom.of_round_negative {n : Nat} (hn : 0 < n) (e : Int) {q : ℚ} (hq : q < 0) :
    RoundsFrom (UnpackedFloat.round Format.binary64 .negative n e) q := by
  -- negative results are below every positive bound, to which they were rounded does not matter
  obtain ⟨r, hround, -, hfull, -⟩ := exists_round .negative hn e
  have ht : -1074 ≤ target n e := le_max_right _ _
  rw [hround]
  unfold rounded
  split
  · have hzero := RoundsFrom.of_zero .negative
    refine ⟨hzero.isNaN, fun M E hM hM' hodd hE hE' => ?_⟩
    rw [hzero.rank_le M E hM hM' hodd hE hE']
    exact iff_of_true (half_pos M E) (hq.trans (half_pos M E))
  · split
    · rename_i hlt
      exact .of_negative _ ⟨hlt, ht, by omega⟩ hq
    · exact .of_negative _ ⟨by decide, by omega, .inl le_rfl⟩ hq

theorem RoundsFrom.of_canonical {m : Nat} {e : Int} (hm : 0 < m)
    (h : Canonical (.finite .positive m e hm)) :
    RoundsFrom (.finite .positive m e hm) (m * 2 ^ e) := by
  obtain ⟨hlt, he, hfull⟩ := h
  have htarget : target m e = e := by
    have hlog : m.log2 < 53 := (Nat.log2_lt hm.ne').2 hlt
    have hlog' : 2 ^ 52 ≤ m → m.log2 = 52 := fun hle => (Nat.log2_eq_iff hm.ne').2 ⟨hle, hlt⟩
    unfold target
    omega
  have hrounded : rounded .positive m e = .finite .positive m e hm := by
    rw [rounded, dif_neg hm.ne', if_pos hlt]
  have hle : ∀ M : Nat, M % 2 = 1 →
      (m ≤ M ↔ (m : ℚ) * 2 ^ e < (2 * M + 1) * 2 ^ (target m e - 1)) := by
    intro M _
    have hdouble : (m : ℚ) * 2 ^ e = (2 * m : ℕ) * 2 ^ (e - 1) := by
      rw [show e = 1 + (e - 1) by omega, zpow_add₀ two_ne_zero,
        show (1 : Int) + (e - 1) - 1 = e - 1 by omega]
      push_cast
      ring
    have hnext : ((2 : ℚ) * M + 1) = (2 * M + 1 : ℕ) := by push_cast; rfl
    rw [htarget, hdouble, hnext, mul_lt_mul_iff_left₀ (by positivity), Nat.cast_lt]
    omega
  have h := RoundsFrom.of_target hm hlt.le (by omega) hle
  rwa [htarget, hrounded] at h

/-! ## Differences -/

theorem RoundsFrom.of_normalize (n : Int) (e : Int) :
    RoundsFrom (UnpackedFloat.normalize Format.binary64 n e .positive) (n * 2 ^ e) := by
  unfold UnpackedFloat.normalize
  rcases lt_trichotomy n 0 with hn | rfl | hn
  · rw [compare_lt_iff_lt.2 hn]
    refine .of_round_negative (by omega) e ?_
    have : (n : ℚ) < 0 := by exact_mod_cast hn
    exact mul_neg_of_neg_of_pos this (by positivity)
  · rw [Int.cast_zero, zero_mul]
    exact .of_zero .positive
  · rw [compare_gt_iff_gt.2 hn]
    obtain ⟨k, rfl⟩ := Int.eq_ofNat_of_zero_le hn.le
    exact .of_round (by omega) e

theorem exact_decreaseExponent (s : Sign) (m : Nat) {e k : Int} (hk : k ≤ e) :
    (s.apply (decreaseExponent m e k).1 : ℚ) * 2 ^ k = s.apply m * 2 ^ e := by
  have hshift : ((m <<< (e - k).toNat : ℕ) : ℚ) * 2 ^ k = m * 2 ^ e := by
    rw [Nat.shiftLeft_eq, Nat.cast_mul, Nat.cast_pow, Nat.cast_ofNat, ← zpow_natCast, mul_assoc,
      ← zpow_add₀ two_ne_zero]
    congr 2
    omega
  unfold decreaseExponent
  cases s with
  | positive => exact hshift
  | negative =>
      show ((-((m <<< (e - k).toNat : ℕ) : Int) : Int) : ℚ) * 2 ^ k =
        ((-(m : Int) : Int) : ℚ) * 2 ^ e
      rw [Int.cast_neg, Int.cast_neg, neg_mul, neg_mul, Int.cast_natCast, Int.cast_natCast, hshift]

/-- A finite float in canonical form is rounded from its own value. -/
theorem RoundsFrom.of_finite (s : Sign) {m : Nat} {e : Int} (hm : 0 < m)
    (h : Canonical (.finite s m e hm)) :
    RoundsFrom (.finite s m e hm) (s.apply m * 2 ^ e) := by
  cases s with
  | positive => exact .of_canonical hm h
  | negative =>
      refine .of_negative hm h ?_
      have hpos : (0 : ℚ) < m * 2 ^ e := by positivity
      simpa [Sign.apply] using hpos

theorem apply_neg (s : Sign) (n : Int) : (-s).apply n = -s.apply n := by
  cases s with
  | positive => rfl
  | negative => exact (neg_neg n).symm

/-- The difference of finite floats is rounded from the exact difference. -/
theorem RoundsFrom.of_sub {u v : UnpackedFloat} (hu : Canonical u) (hv : Canonical v)
    (hfu : u.isFinite = true) (hfv : v.isFinite = true) :
    RoundsFrom (sub Format.binary64 u v) (exactOf u - exactOf v) := by
  cases u with
  | infinity _ | notANumber => cases hfu
  | zero s =>
      cases v with
      | infinity _ | notANumber => cases hfv
      | zero s' =>
          show RoundsFrom (if s == -s' then .zero s else .zero .positive) (0 - 0)
          rw [sub_self]
          split <;> exact .of_zero _
      | finite s' m e hm =>
          show RoundsFrom (.finite (-s') m e hm) (0 - s'.apply m * 2 ^ e)
          rw [zero_sub, ← neg_mul, ← Int.cast_neg, ← apply_neg]
          exact .of_finite (-s') hm hv
  | finite s m e hm =>
      cases v with
      | infinity _ | notANumber => cases hfv
      | zero s' =>
          show RoundsFrom (.finite s m e hm) (s.apply m * 2 ^ e - 0)
          rw [sub_zero]
          exact .of_finite s hm hu
      | finite s' m' e' hm' =>
          have hvalue : exactOf (.finite s m e hm) - exactOf (.finite s' m' e' hm') =
              ((s.apply (decreaseExponent m e (min e e')).1 -
                s'.apply (decreaseExponent m' e' (min e e')).1 : Int) : ℚ) * 2 ^ min e e' := by
            rw [Int.cast_sub, sub_mul, exact_decreaseExponent s m (min_le_left e e'),
              exact_decreaseExponent s' m' (min_le_right e e')]
            rfl
          rw [hvalue]
          exact .of_normalize _ _

theorem unpack_sub (x y : Float) : (x - y).toModel.unpack =
    repacked (sub Format.binary64 x.toModel.unpack y.toModel.unpack) := rfl

variable {x y t : Float}

theorem roundsFrom_sub (hx : x.isFinite = true) (hy : y.isFinite = true) :
    RoundsFrom (sub Format.binary64 x.toModel.unpack y.toModel.unpack) (exact x - exact y) :=
  .of_sub (canonical_unpack _) (canonical_unpack _) hx hy

theorem sub_isNaN (hx : x.isFinite = true) (hy : y.isFinite = true) : (x - y).isNaN = false :=
  (roundsFrom_sub hx hy).isNaN

/-- When a difference is at most a float with an odd mantissa. -/
theorem sub_le_iff (hx : x.isFinite = true) (hy : y.isFinite = true) {M : Nat} {E : Int}
    {hM : 0 < M} (ht : t.toModel.unpack = .finite .positive M E hM) (hodd : M % 2 = 1)
    (hnormal : 2 ^ 52 ≤ M) (hE : E ≤ 970) :
    x - y ≤ t ↔ exact x - exact y < exact t + 2 ^ (E - 1) := by
  have hcanonical : Canonical (.finite .positive M E hM) := ht ▸ canonical_unpack _
  have hround := roundsFrom_sub hx hy
  have hplace : place t = toLex (1, toLex (E, (M : Int))) := by rw [place, ht]; rfl
  have htop : exact t + 2 ^ (E - 1) = (2 * M + 1) * 2 ^ (E - 1) := by
    rw [exact, ht]
    show (M : ℚ) * 2 ^ E + 2 ^ (E - 1) = _
    rw [show E = 1 + (E - 1) by omega, zpow_add₀ two_ne_zero,
      show (1 : Int) + (E - 1) - 1 = E - 1 by omega]
    ring
  have htnan : t.isNaN = false := by
    show t.toModel.unpack.isNaN = false
    rw [ht]
    rfl
  rw [le_iff, hplace, htop, and_iff_right (sub_isNaN hx hy), and_iff_right htnan]
  exact hround.rank_le M E hnormal hcanonical.1 hodd hcanonical.2.1 hE

/-! ## Infinite differences -/

theorem isNaN_of_isFinite (hx : x.isFinite = true) : x.isNaN = false := by
  have hfinite : x.toModel.unpack.isFinite = true := hx
  show x.toModel.unpack.isNaN = false
  cases hu : x.toModel.unpack with
  | finite _ _ _ _ | zero _ => rfl
  | infinity _ | notANumber =>
      rw [hu] at hfinite
      cases hfinite

theorem unpack_of_infinite (hx : x.isNaN = false) (hinf : x.isFinite = false) :
    ∃ s, x.toModel.unpack = .infinity s := by
  have hnumber : x.toModel.unpack.isNaN = false := hx
  have hinfinite : x.toModel.unpack.isFinite = false := hinf
  cases hu : x.toModel.unpack with
  | infinity s => exact ⟨s, rfl⟩
  | finite _ _ _ _ | zero _ =>
      rw [hu] at hinfinite
      cases hinfinite
  | notANumber =>
      rw [hu] at hnumber
      cases hnumber

theorem rank_of_isFinite {u : UnpackedFloat} (hu : u.isFinite = true) :
    rank (.infinity .negative) < rank u ∧ rank u < rank (.infinity .positive) := by
  rcases u with ⟨_⟩ | _ | ⟨_⟩ | ⟨_ | _, m, e, hm⟩
  · cases hu
  · cases hu
  all_goals simp [rank, Prod.Lex.toLex_lt_toLex]

theorem infinity_le_iff {u v : UnpackedFloat} (hu : u.isFinite = true) (hv : v.isFinite = true)
    (s : Sign) : rank (.infinity s) ≤ rank u ↔ rank (.infinity s) ≤ rank v := by
  cases s with
  | positive => exact iff_of_false (rank_of_isFinite hu).2.not_ge (rank_of_isFinite hv).2.not_ge
  | negative => exact iff_of_true (rank_of_isFinite hu).1.le (rank_of_isFinite hv).1.le

theorem le_infinity_iff {u v : UnpackedFloat} (hu : u.isFinite = true) (hv : v.isFinite = true)
    (s : Sign) : rank u ≤ rank (.infinity s) ↔ rank (.infinity (-s)) ≤ rank v := by
  cases s with
  | positive => exact iff_of_true (rank_of_isFinite hu).2.le (rank_of_isFinite hv).1.le
  | negative => exact iff_of_false (rank_of_isFinite hu).1.not_ge (rank_of_isFinite hv).2.not_ge

theorem sub_infinity {u : UnpackedFloat} (hu : u.isFinite = true) (s : Sign) :
    repacked (sub Format.binary64 u (.infinity s)) = .infinity (-s) := by
  cases u with
  | finite _ _ _ _ | zero _ => exact repacked_infinity (-s)
  | infinity _ | notANumber => cases hu

theorem infinity_sub {u : UnpackedFloat} (hu : u.isFinite = true) (s : Sign) :
    repacked (sub Format.binary64 (.infinity s) u) = .infinity s := by
  cases u with
  | finite _ _ _ _ | zero _ => exact repacked_infinity s
  | infinity _ | notANumber => cases hu

/-- If just one of two numbers is infinite, the difference is infinite and tells their order. -/
theorem sub_le_iff_of_infinite (hx : x.isNaN = false) (hy : y.isNaN = false)
    (h : x.isFinite ≠ y.isFinite) :
    (x - y).isNaN = false ∧ ∀ t : Float, t.isFinite = true → (x - y ≤ t ↔ x ≤ y) := by
  have hnan : (x - y).isNaN = (x - y).toModel.unpack.isNaN := rfl
  cases hxf : x.isFinite with
  | true =>
      have hyf : y.isFinite = false := by
        rw [hxf] at h
        exact Bool.eq_false_iff.2 h.symm
      obtain ⟨s, hs⟩ := unpack_of_infinite hy hyf
      have hsub : (x - y).toModel.unpack = .infinity (-s) := by
        rw [unpack_sub, hs, sub_infinity hxf]
      rw [hsub] at hnan
      refine ⟨hnan, fun t ht => ?_⟩
      have hplace : place (x - y) ≤ place t ↔ place x ≤ place y := by
        rw [place, place, place, place, hsub, hs, le_infinity_iff hxf ht]
      simp only [le_iff, hplace, hx, hy, isNaN_of_isFinite ht, hnan, UnpackedFloat.isNaN]
  | false =>
      have hyf : y.isFinite = true := by
        rw [hxf] at h
        exact Bool.eq_true_of_not_eq_false h.symm
      obtain ⟨s, hs⟩ := unpack_of_infinite hx hxf
      have hsub : (x - y).toModel.unpack = .infinity s := by
        rw [unpack_sub, hs, infinity_sub hyf]
      rw [hsub] at hnan
      refine ⟨hnan, fun t ht => ?_⟩
      have hplace : place (x - y) ≤ place t ↔ place x ≤ place y := by
        rw [place, place, place, place, hsub, hs, infinity_le_iff ht hyf]
      simp only [le_iff, hplace, hx, hy, isNaN_of_isFinite ht, hnan, UnpackedFloat.isNaN]

end Extremum.Number
