import Extremum.Problem.Normalized
import Extremum.Proofs.Success

/-!
# Violations of limits and of normalized constraints

How far values lie outside their limits is the same as how far the normalized values are from being
solutions: an equality is violated by the magnitude of its value, an inequality by what its value is
below zero. In exact arithmetic the two differ only where close limits are made one equality, and by
less than the distance at which limits are close.
-/

namespace Extremum

/-! ## Exact numbers -/

/-- Exact numbers with infinities, and what has no value. -/
inductive Extended where
  | finite (q : ℚ)
  | infinite (positive : Bool)
  | undefined

namespace Extended

def sub : Extended → Extended → Extended
  | finite p, finite q => finite (p - q)
  | infinite s, finite _ => infinite s
  | finite _, infinite s => infinite !s
  | infinite s, infinite t => if s = t then undefined else infinite s
  | undefined, _ | _, undefined => undefined

def neg : Extended → Extended
  | finite q => finite (-q)
  | infinite s => infinite !s
  | undefined => undefined

def less : Extended → Extended → Bool
  | finite p, finite q => p < q
  | infinite s, infinite t => !s && t
  | infinite s, finite _ => !s
  | finite _, infinite s => s
  | undefined, _ | _, undefined => false

def isFinite : Extended → Bool
  | finite _ => true
  | _ => false

def isUndefined : Extended → Bool
  | undefined => true
  | _ => false

instance : Measure Extended where
  zero := finite 0
  sub := sub
  neg := neg
  less := less
  isFinite := isFinite
  isUndefined := isUndefined
  closeness := finite 1e-15

end Extended

open Extended

/-! ## Greatest numbers -/

/-- The greatest of some numbers and zero. -/
def topOf (qs : List ℚ) : ℚ := qs.foldr max 0

theorem topOf_cons (q : ℚ) (qs : List ℚ) : topOf (q :: qs) = max q (topOf qs) := rfl

theorem topOf_nonneg (qs : List ℚ) : 0 ≤ topOf qs := by
  induction qs with
  | nil => exact le_rfl
  | cons q qs ih => exact ih.trans (le_max_right _ _)

theorem topOf_append (ps qs : List ℚ) : topOf (ps ++ qs) = max (topOf ps) (topOf qs) := by
  induction ps with
  | nil => exact (max_eq_right (topOf_nonneg qs)).symm
  | cons p ps ih => rw [List.cons_append, topOf_cons, topOf_cons, ih, max_assoc]

theorem max_foldl_max (q : ℚ) (qs : List ℚ) : max (qs.foldl max q) 0 = topOf (q :: qs) := by
  induction qs generalizing q with
  | nil => rfl
  | cons p qs ih => rw [List.foldl_cons, ih, topOf_cons, topOf_cons, topOf_cons, max_assoc]

namespace Measure

theorem later_finite (p q : ℚ) : later (finite p) (finite q) = finite (max p q) := by
  have hless : (less (finite p) (finite q) : Bool) = decide (p < q) := rfl
  rw [later, hless]
  by_cases h : p < q
  · rw [decide_eq_true h, if_pos rfl, max_eq_right h.le]
  · rw [decide_eq_false h, if_neg (by decide), max_eq_left (not_lt.1 h)]

theorem foldl_greater_finite (q : ℚ) (qs : List ℚ) :
    (qs.map finite).foldl greater (finite q) = finite (qs.foldl max q) := by
  induction qs generalizing q with
  | nil => rfl
  | cons p qs ih =>
      have hstep : greater (finite q) (finite p) = later (finite q) (finite p) := rfl
      rw [List.map_cons, List.foldl_cons, hstep, later_finite, ih, List.foldl_cons]

theorem greatest_finite {qs : List ℚ} (h : qs ≠ []) :
    ∃ g, greatest (qs.map finite) = finite g ∧ max g 0 = topOf qs := by
  cases qs with
  | nil => exact absurd rfl h
  | cons q qs => exact ⟨_, foldl_greater_finite q qs, max_foldl_max q qs⟩

/-! ## Distances from limits -/

/-- How far an exact value lies below its limit, if there is one. -/
def belowBy : Extended → ℚ → ℚ
  | .finite lower, value => lower - value
  | _, _ => 0

/-- How far an exact value lies above its limit, if there is one. -/
def aboveBy : ℚ → Extended → ℚ
  | value, .finite upper => value - upper
  | _, _ => 0

theorem shortfall_finite (lower : Extended) (value : ℚ) :
    shortfall lower (finite value) = finite (belowBy lower value) := by
  cases lower <;> rfl

theorem excess_finite (value : ℚ) (upper : Extended) :
    excess (finite value) upper = finite (aboveBy value upper) := by
  cases upper <;> rfl

/-- The distances of all values below and above their limits, the worst of them, and zero. -/
def worstDistance (values : List ℚ) (lower upper : List Extended) : ℚ :=
  max (topOf (List.zipWith belowBy lower values)) (topOf (List.zipWith aboveBy values upper))

variable {values : List ℚ} {lower upper : List Extended}

theorem worstDistance_cons (v : ℚ) (l u : Extended) : worstDistance (v :: values) (l :: lower)
    (u :: upper) = max (topOf [belowBy l v, aboveBy v u]) (worstDistance values lower upper) := by
  let below := List.zipWith belowBy lower values
  let above := List.zipWith aboveBy values upper
  calc max (max (belowBy l v) (topOf below)) (max (aboveBy v u) (topOf above))
    _ = max (max (belowBy l v) (aboveBy v u)) (max (topOf below) (topOf above)) :=
      sup_sup_sup_comm _ _ _ _
    _ = topOf ([belowBy l v, aboveBy v u] ++ (below ++ above)) := by
      rw [List.cons_append, List.singleton_append, topOf_cons, topOf_cons, topOf_append, max_assoc]
    _ = max (topOf [belowBy l v, aboveBy v u]) (max (topOf below) (topOf above)) := by
      rw [topOf_append, topOf_append]

/-- The worst violation is a number for values that are, whatever the limits. -/
theorem violation_finite (hlength : lower.length = upper.length)
    (hvalues : values.length = lower.length) :
    violation (values.map finite) lower upper = finite (worstDistance values lower upper) := by
  have hbelow : List.zipWith shortfall lower (values.map finite) =
      (List.zipWith belowBy lower values).map finite := by
    rw [List.zipWith_map_right, List.map_zipWith]
    simp only [shortfall_finite]
  have habove : List.zipWith excess (values.map finite) upper =
      (List.zipWith aboveBy values upper).map finite := by
    rw [List.zipWith_map_left, List.map_zipWith]
    simp only [excess_finite]
  unfold violation
  rw [hbelow, habove, worstDistance]
  -- no values have no greatest distance, and then the violation is zero by definition
  cases values with
  | nil =>
      cases lower with
      | nil => rfl
      | cons l lower => cases hvalues
  | cons v values =>
      obtain ⟨l, lower, rfl⟩ := List.exists_cons_of_length_eq_add_one hvalues.symm
      obtain ⟨u, upper, rfl⟩ := List.exists_cons_of_length_eq_add_one hlength.symm
      obtain ⟨b, hb, hbtop⟩ := greatest_finite (List.cons_ne_nil (belowBy l v)
        (List.zipWith belowBy lower values))
      obtain ⟨a, ha, hatop⟩ := greatest_finite (List.cons_ne_nil (aboveBy v u)
        (List.zipWith aboveBy values upper))
      show later (later (greatest ((belowBy l v :: _).map finite))
        (greatest ((aboveBy v u :: _).map finite))) (finite 0) = _
      rw [hb, ha, later_finite, later_finite, sup_sup_distrib_right, hbtop, hatop]
      rfl

end Measure

/-! ## Normalized values -/

namespace NormalRow

open Extremum.Measure

/-- How far a normalized value is from being a solution. -/
def amiss (row : NormalRow Extended) (n : ℚ) : ℚ := if row.isEquality then |n| else -n

/-- The worst of some normalized values, or zero. -/
def worst (rows : List (NormalRow Extended)) (ns : List ℚ) : ℚ :=
  topOf (List.zipWith amiss rows ns)

def HaveValues (values : List ℚ) (rows : List (NormalRow Extended)) (ns : List ℚ) : Prop :=
  List.Forall₂ (fun row n => row.valueAt (values.map finite) = .ok (finite n)) rows ns

theorem worst_append {rows rows' : List (NormalRow Extended)} {ns ns' : List ℚ}
    (h : rows.length = ns.length) :
    worst (rows ++ rows') (ns ++ ns') = max (worst rows ns) (worst rows' ns') := by
  rw [worst, List.zipWith_append h, topOf_append]
  rfl

theorem valuesAt_eq_ok {values ns : List ℚ} {rows : List (NormalRow Extended)} :
    valuesAt rows (values.map finite) = .ok (ns.map finite) ↔ HaveValues values rows ns := by
  rw [valuesAt, mapM_eq_ok, List.forall₂_map_right_iff]
  rfl

variable {values : List ℚ} {lower upper : Extended} {v : ℚ} {k : Nat}

theorem valueAt_finite {row : NormalRow Extended} {q : ℚ} (hv : values[row.index]? = some v)
    (hlimit : row.limit = finite q) : row.valueAt (values.map finite) =
      .ok (finite (if row.isUpper then -(v - q) else v - q)) := by
  rw [valueAt, List.getElem?_map, hv, Option.map_some]
  dsimp only
  rw [normalized, hlimit]
  cases row.isUpper <;> rfl

/-- Only limits that are numbers are close. -/
theorem finite_of_areClose (h : areClose lower upper = true) :
    ∃ p q, lower = finite p ∧ upper = finite q ∧ |q - p| < 1e-15 := by
  cases lower with
  | finite p =>
      cases upper with
      | finite q =>
          have hgap : areClose (finite p) (finite q) =
            (decide (q - p < 1e-15) && decide (-1e-15 < q - p)) := rfl
          rw [hgap, Bool.and_eq_true, decide_eq_true_iff, decide_eq_true_iff] at h
          exact ⟨p, q, rfl, rfl, abs_lt.2 ⟨h.2, h.1⟩⟩
      | infinite s => cases s <;> cases h
      | undefined => cases h
  | infinite s =>
      cases upper with
      | finite q => cases s <;> cases h
      | infinite t => cases s <;> cases t <;> cases h
      | undefined => cases h
  | undefined => cases upper <;> cases h

/-- A limit that is there has a constraint, which is amiss by as much as the limit is exceeded. -/
theorem exists_side (hv : values[k]? = some v) (isUpper : Bool) (limit : Extended) :
    ∃ ns, HaveValues values
        (if Measure.isFinite limit then [⟨k, false, limit, isUpper⟩] else []) ns ∧
      worst (if Measure.isFinite limit then [⟨k, false, limit, isUpper⟩] else []) ns =
        topOf [if isUpper then aboveBy v limit else belowBy limit v] := by
  cases limit with
  | finite q =>
      refine ⟨[if isUpper then -(v - q) else v - q], .cons (valueAt_finite hv rfl) .nil, ?_⟩
      cases isUpper with
      | false =>
          show topOf [-(v - q)] = topOf [q - v]
          rw [neg_sub]
      | true =>
          show topOf [-(-(v - q))] = topOf [v - q]
          rw [neg_neg]
  | infinite s => exact ⟨[], .nil, by cases isUpper <;> rfl⟩
  | undefined => exact ⟨[], .nil, by cases isUpper <;> rfl⟩

/-- The magnitude of a difference from one of two limits that are close. -/
theorem near_of_close {p q : ℚ} (h : |q - p| < 1e-15) (v : ℚ) :
    |topOf [p - v, v - q] - topOf [|v - p|]| < 1e-15 := by
  have habs : topOf [|v - p|] = topOf [p - v, v - p] := by
    show max |v - p| 0 = max (p - v) (max (v - p) 0)
    rw [abs_sub_comm, abs_eq_max_neg, neg_sub, max_assoc]
  have hupper : |topOf [v - q] - topOf [v - p]| ≤ |v - q - (v - p)| :=
    abs_max_sub_max_le_abs _ _ _
  have hgap : |v - q - (v - p)| = |q - p| := by
    rw [abs_sub_comm]
    congr 1
    ring
  -- both are a maximum with `p - v`, so they are as near as what is left without it
  rw [habs]
  calc |topOf [p - v, v - q] - topOf [p - v, v - p]|
    _ ≤ max |p - v - (p - v)| |topOf [v - q] - topOf [v - p]| :=
      abs_max_sub_max_le_max _ _ _ _
    _ < 1e-15 := by
      rw [sub_self, abs_zero]
      exact max_lt (by norm_num) ((hupper.trans_eq hgap).trans_lt h)

/-- What becomes of one constraint is amiss by as much as its value is outside its limits. -/
theorem exists_ofLimits (hv : values[k]? = some v) (lower upper : Extended) :
    ∃ ns, HaveValues values (ofLimits k lower upper) ns ∧
      |topOf [belowBy lower v, aboveBy v upper] - worst (ofLimits k lower upper) ns| < 1e-15 := by
  unfold ofLimits
  split
  · rename_i hclose
    obtain ⟨p, q, rfl, rfl, hgap⟩ := finite_of_areClose hclose
    exact ⟨[v - p], .cons (valueAt_finite hv rfl) .nil, near_of_close hgap v⟩
  · obtain ⟨ns, hns, hlower⟩ := exists_side hv false lower
    obtain ⟨ns', hns', hupper⟩ := exists_side hv true upper
    refine ⟨ns ++ ns', List.rel_append hns hns', ?_⟩
    have hsame : topOf [belowBy lower v, aboveBy v upper] =
        max (topOf [belowBy lower v]) (topOf [aboveBy v upper]) :=
      topOf_append [belowBy lower v] [aboveBy v upper]
    rw [worst_append hns.length_eq, hlower, hupper, if_neg Bool.false_ne_true, if_pos rfl, hsame,
      sub_self, abs_zero]
    norm_num

/-- The constraints from one on, the values of the earlier ones being there, too. -/
theorem exists_allFrom {lower upper : List Extended} (before values : List ℚ)
    (hlength : lower.length = upper.length) (hvalues : values.length = lower.length) :
    ∃ ns, HaveValues (before ++ values) (allFrom before.length lower upper) ns ∧
      |worstDistance values lower upper -
        worst (allFrom before.length lower upper) ns| < 1e-15 := by
  -- positions count from the first value, so the values that are passed are kept in front
  induction lower generalizing upper before values with
  | nil =>
      refine ⟨[], .nil, ?_⟩
      obtain rfl := List.eq_nil_of_length_eq_zero hvalues
      show |(max 0 0 : ℚ) - 0| < 1e-15
      norm_num
  | cons l lower ih =>
      obtain ⟨u, upper, rfl⟩ := List.exists_cons_of_length_eq_add_one hlength.symm
      obtain ⟨v, values, rfl⟩ := List.exists_cons_of_length_eq_add_one hvalues
      simp only [List.length_cons, Nat.add_right_cancel_iff] at hlength hvalues
      have hv : (before ++ v :: values)[before.length]? = some v := by simp
      obtain ⟨ns, hns, hnear⟩ := exists_ofLimits hv l u
      obtain ⟨ns', hns', hnear'⟩ := ih (before ++ [v]) values hlength hvalues
      simp only [List.append_assoc, List.singleton_append, List.length_append,
        List.length_singleton] at hns' hnear'
      refine ⟨ns ++ ns', List.rel_append hns hns', ?_⟩
      rw [allFrom, worst_append hns.length_eq, worstDistance_cons]
      exact (abs_max_sub_max_le_max _ _ _ _).trans_lt (max_lt hnear hnear')

/--
In exact arithmetic, values that are numbers have normalized values and a worst violation that are
numbers, whatever the limits. The worst violation differs by less than the distance at which limits
are close from the greatest of zero, the magnitudes of the equalities and the negated inequalities.
-/
theorem violation_near_worst {values : List ℚ} {lower upper : List Extended}
    (hlength : lower.length = upper.length) (hvalues : values.length = lower.length) :
    ∃ ns r, valuesAt (all lower upper) (values.map finite) = .ok (ns.map finite) ∧
      Measure.violation (values.map finite) lower upper = finite r ∧
      |r - worst (all lower upper) ns| < 1e-15 := by
  obtain ⟨ns, hns, hnear⟩ := exists_allFrom [] values hlength hvalues
  exact ⟨ns, _, valuesAt_eq_ok.2 hns, violation_finite hlength hvalues, hnear⟩

/-- Close limits, whose equality is amiss by `2`, and limits of which only the lower one counts. -/
theorem violation_near_worst_two :
    let lower := [finite 0, finite 1]
    let upper := [finite 5e-16, infinite true]
    ∃ ns r, valuesAt (all lower upper) [finite 2, finite 0] = .ok (ns.map finite) ∧
      Measure.violation [finite 2, finite 0] lower upper = finite r ∧
      |r - worst (all lower upper) ns| < 1e-15 := by
  intro lower upper
  exact violation_near_worst (show lower.length = upper.length from rfl)
    (show [2, 0].length = lower.length from rfl)

end NormalRow

end Extremum
