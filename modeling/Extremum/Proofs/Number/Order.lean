import Mathlib

/-!
# The order of floats

Floats compare by class, then by exponent, then by mantissa, so every float other than NaN has a
place in one linear order, which it shares with no other float except that both zeros have the same.
NaN compares with nothing. All facts about comparisons follow from the places.
-/

namespace Extremum.Number

open Float.Model (UnpackedFloat)

/-- The place of an unpacked float; that of NaN has no meaning. -/
def rank : UnpackedFloat → Int ×ₗ Int ×ₗ Int
  | .infinity .negative => toLex (-2, toLex (0, 0))
  | .finite .negative m e _ => toLex (-1, toLex (-e, -m))
  | .zero _ | .notANumber => toLex (0, toLex (0, 0))
  | .finite .positive m e _ => toLex (1, toLex (e, m))
  | .infinity .positive => toLex (2, toLex (0, 0))

def place (x : Float) : Int ×ₗ Int ×ₗ Int := rank x.toModel.unpack

theorem compare_eq_cmp {a b : UnpackedFloat} (ha : a.isNaN = false) (hb : b.isNaN = false) :
    a.compare b = some (cmp (rank a) (rank b)) := by
  rcases a with ⟨_ | _⟩ | _ | ⟨_⟩ | ⟨_ | _, m, e, hm⟩ <;>
    rcases b with ⟨_ | _⟩ | _ | ⟨_⟩ | ⟨_ | _, n, f, hn⟩ <;>
    simp_all [UnpackedFloat.compare, UnpackedFloat.isNaN, rank, cmp, cmpUsing, compare,
      Prod.Lex.toLex_lt_toLex, compareOfLessAndEq]
  -- two finite floats of one sign are left
  all_goals split_ifs <;> first | rfl | omega

theorem compare_eq_none {a b : UnpackedFloat} (h : a.isNaN = true ∨ b.isNaN = true) :
    a.compare b = none := by
  cases a <;> cases b <;> simp_all [UnpackedFloat.compare, UnpackedFloat.isNaN]

theorem compare_cases (a b : UnpackedFloat) :
    ((a.isNaN = true ∨ b.isNaN = true) ∧ a.compare b = none) ∨
      (a.isNaN = false ∧ b.isNaN = false ∧ a.compare b = some (cmp (rank a) (rank b))) := by
  cases ha : a.isNaN with
  | true => exact .inl ⟨.inl rfl, compare_eq_none (.inl ha)⟩
  | false =>
      cases hb : b.isNaN with
      | true => exact .inl ⟨.inr rfl, compare_eq_none (.inr hb)⟩
      | false => exact .inr ⟨rfl, rfl, compare_eq_cmp ha hb⟩

/-! ## Comparisons by place -/

variable {x y z : Float}

theorem le_iff : x ≤ y ↔ x.isNaN = false ∧ y.isNaN = false ∧ place x ≤ place y := by
  have hdef : x ≤ y ↔ x.toModel.unpack.le y.toModel.unpack = true := decide_eq_true_iff
  rw [hdef]
  show _ ↔ x.toModel.unpack.isNaN = false ∧ y.toModel.unpack.isNaN = false ∧ _
  rcases compare_cases x.toModel.unpack y.toModel.unpack with ⟨h | h, hc⟩ | ⟨hx, hy, hc⟩
  · simp [UnpackedFloat.le, hc, h]
  · simp [UnpackedFloat.le, hc, h]
  · simp [UnpackedFloat.le, hc, hx, hy, Ordering.isLE_iff_ne_gt, cmp_eq_gt_iff, place]

theorem lt_iff : x < y ↔ x.isNaN = false ∧ y.isNaN = false ∧ place x < place y := by
  have hdef : x < y ↔ x.toModel.unpack.lt y.toModel.unpack = true := decide_eq_true_iff
  rw [hdef]
  show _ ↔ x.toModel.unpack.isNaN = false ∧ y.toModel.unpack.isNaN = false ∧ _
  rcases compare_cases x.toModel.unpack y.toModel.unpack with ⟨h | h, hc⟩ | ⟨hx, hy, hc⟩
  · simp [UnpackedFloat.lt, hc, h]
  · simp [UnpackedFloat.lt, hc, h]
  · simp [UnpackedFloat.lt, hc, hx, hy, cmp_eq_lt_iff, place]

theorem beq_iff : (x == y) = true ↔ x.isNaN = false ∧ y.isNaN = false ∧ place x = place y := by
  show x.toModel.unpack.beq y.toModel.unpack = true ↔
    x.toModel.unpack.isNaN = false ∧ y.toModel.unpack.isNaN = false ∧ _
  rcases compare_cases x.toModel.unpack y.toModel.unpack with ⟨h | h, hc⟩ | ⟨hx, hy, hc⟩
  · simp [UnpackedFloat.beq, hc, h]
  · simp [UnpackedFloat.beq, hc, h]
  · simp [UnpackedFloat.beq, hc, hx, hy, cmp_eq_eq_iff, place]

theorem le_trans (hxy : x ≤ y) (hyz : y ≤ z) : x ≤ z := by
  obtain ⟨hx, _, hp⟩ := le_iff.1 hxy
  obtain ⟨_, hz, hq⟩ := le_iff.1 hyz
  exact le_iff.2 ⟨hx, hz, hp.trans hq⟩

theorem le_self (hx : x.isNaN = false) : x ≤ x := le_iff.2 ⟨hx, hx, le_rfl⟩

theorem le_of_lt (h : x < y) : x ≤ y := by
  obtain ⟨hx, hy, hp⟩ := lt_iff.1 h
  exact le_iff.2 ⟨hx, hy, hp.le⟩

theorem not_lt (hx : x.isNaN = false) (hy : y.isNaN = false) : ¬ x < y ↔ y ≤ x := by
  rw [lt_iff, le_iff]
  constructor
  · intro h
    exact ⟨hy, hx, le_of_not_gt fun hlt => h ⟨hx, hy, hlt⟩⟩
  · rintro ⟨-, -, hle⟩ ⟨-, -, hlt⟩
    exact hle.not_gt hlt

theorem le_antisymm_iff : x ≤ y ∧ y ≤ x ↔ (x == y) = true := by
  rw [beq_iff, le_iff, le_iff]
  constructor
  · rintro ⟨⟨hx, hy, h⟩, _, _, h'⟩
    exact ⟨hx, hy, h.antisymm h'⟩
  · rintro ⟨hx, hy, h⟩
    exact ⟨⟨hx, hy, h.le⟩, hy, hx, h.ge⟩

theorem isNaN_left (h : x ≤ y) : x.isNaN = false := (le_iff.1 h).1

theorem isNaN_right (h : x ≤ y) : y.isNaN = false := (le_iff.1 h).2.1

/-! ## Infinities and choices -/

theorem isNaN_negInfinity : (-1.0 / 0.0 : Float).isNaN = false := rfl

theorem isNaN_infinity : (1.0 / 0.0 : Float).isNaN = false := rfl

theorem negInfinity_le (hx : x.isNaN = false) : -1.0 / 0.0 ≤ x := by
  have hp : place (-1.0 / 0.0) = toLex (-2, toLex (0, 0)) := rfl
  rw [le_iff, hp]
  refine ⟨isNaN_negInfinity, hx, ?_⟩
  unfold place
  rcases x.toModel.unpack with ⟨_ | _⟩ | _ | ⟨_⟩ | ⟨_ | _, m, e, hm⟩ <;>
    simp [rank, Prod.Lex.toLex_le_toLex]

theorem le_infinity (hx : x.isNaN = false) : x ≤ 1.0 / 0.0 := by
  have hp : place (1.0 / 0.0) = toLex (2, toLex (0, 0)) := rfl
  rw [le_iff, hp]
  refine ⟨hx, isNaN_infinity, ?_⟩
  unfold place
  rcases x.toModel.unpack with ⟨_ | _⟩ | _ | ⟨_⟩ | ⟨_ | _, m, e, hm⟩ <;>
    simp [rank, Prod.Lex.toLex_le_toLex]

theorem greater_le_iff (hx : x.isNaN = false) (hy : y.isNaN = false) :
    (if x < y then y else x) ≤ z ↔ x ≤ z ∧ y ≤ z := by
  split
  · rename_i h
    exact ⟨fun hz => ⟨le_trans (le_of_lt h) hz, hz⟩, And.right⟩
  · rename_i h
    exact ⟨fun hz => ⟨hz, le_trans ((not_lt hx hy).1 h) hz⟩, And.left⟩

theorem le_lesser_iff (hx : x.isNaN = false) (hy : y.isNaN = false) :
    (z ≤ if y < x then y else x) ↔ z ≤ x ∧ z ≤ y := by
  split
  · rename_i h
    exact ⟨fun hz => ⟨le_trans hz (le_of_lt h), hz⟩, And.right⟩
  · rename_i h
    exact ⟨fun hz => ⟨hz, le_trans hz ((not_lt hy hx).1 h)⟩, And.left⟩

end Extremum.Number
