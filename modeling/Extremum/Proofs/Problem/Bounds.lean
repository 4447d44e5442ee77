import Extremum.Problem.Bounds
import Extremum.Proofs.Model.WellFormed
import Extremum.Proofs.Number.Order
import Extremum.Proofs.Problem.Positions

/-!
# Bounds and regions

A number lies in a region if and only if it lies between the bounds of the region, and it lies in
the range of a variable if and only if it lies in all regions that constrain just this variable.
-/

namespace Extremum

/-- A number lies in a region. -/
def Region.Admits : Region → Float → Prop
  | lessThan upper, y => y ≤ upper.value
  | greaterThan lower, y => lower.value ≤ y
  | equalTo value _, y => (y == value.value) = true
  | interval lower upper _, y => lower.value ≤ y ∧ y ≤ upper.value
  | zeroOne, y => (y == 0) = true ∨ (y == 1) = true
  | integer, y => ∃ n : Int, (y == Float.ofInt n) = true

/-- A number lies between two others. -/
def Within (range : Float × Float) (y : Float) : Prop := range.1 ≤ y ∧ y ≤ range.2

variable {r : Region} {range : Float × Float} {y : Float}

/-! ## Bounds of regions -/

namespace Region

/-- The bounds of a region hold the same numbers as the region; NaN lies in neither. -/
theorem within_bounds (h : r.bounds = .ok range) : Within range y ↔ r.Admits y := by
  cases r with
  | lessThan upper =>
      cases h
      exact ⟨And.right, fun hy => ⟨Number.negInfinity_le (Number.isNaN_left hy), hy⟩⟩
  | greaterThan lower =>
      cases h
      exact ⟨And.left, fun hy => ⟨hy, Number.le_infinity (Number.isNaN_right hy)⟩⟩
  | equalTo value _ =>
      cases h
      exact and_comm.trans Number.le_antisymm_iff
  | interval lower upper _ =>
      cases h
      exact Iff.rfl
  | zeroOne | integer => cases h

theorem exists_bounds (h : r.kind ∈ Kind.scalarRegions) : ∃ range, r.bounds = .ok range := by
  cases r with
  | zeroOne | integer => exact absurd h (by decide)
  | _ => exact ⟨_, rfl⟩

theorem bounds_isNaN (h : r.bounds = .ok range) :
    range.1.isNaN = false ∧ range.2.isNaN = false := by
  cases r with
  | lessThan upper =>
      cases h
      exact ⟨Number.isNaN_negInfinity, upper.isNumber⟩
  | greaterThan lower =>
      cases h
      exact ⟨lower.isNumber, Number.isNaN_infinity⟩
  | equalTo value _ =>
      cases h
      exact ⟨value.isNumber, value.isNumber⟩
  | interval lower upper _ =>
      cases h
      exact ⟨lower.isNumber, upper.isNumber⟩
  | zeroOne | integer => cases h

end Region

/-! ## Ranges of variables -/

theorem unbounded_isNaN : unbounded.1.isNaN = false ∧ unbounded.2.isNaN = false := by
  unfold unbounded
  exact ⟨Number.isNaN_negInfinity, Number.isNaN_infinity⟩

theorem within_unbounded (hy : y.isNaN = false) : Within unbounded y := by
  unfold Within unbounded
  exact ⟨Number.negInfinity_le hy, Number.le_infinity hy⟩

/-- The ends of a region; a region without bounds has no say. -/
def Region.ends (r : Region) : Float × Float := r.bounds.toOption.getD unbounded

/-- A range cut down to a region. -/
def cut (range : Float × Float) (r : Region) : Float × Float := tightened range r.ends

theorem cut_of_bounds {b : Float × Float} (h : r.bounds = .ok b) :
    cut range r = tightened range b := by
  rw [cut, Region.ends, h]
  rfl

theorem cut_isNaN (hrange : range.1.isNaN = false ∧ range.2.isNaN = false)
    (hr : r.kind ∈ Kind.scalarRegions) :
    (cut range r).1.isNaN = false ∧ (cut range r).2.isNaN = false := by
  obtain ⟨b, hb⟩ := Region.exists_bounds hr
  obtain ⟨hlower, hupper⟩ := Region.bounds_isNaN hb
  rw [cut_of_bounds hb, tightened]
  constructor
  · show (if range.1 < b.1 then b.1 else range.1).isNaN = false
    split
    · exact hlower
    · exact hrange.1
  · show (if b.2 < range.2 then b.2 else range.2).isNaN = false
    split
    · exact hupper
    · exact hrange.2

theorem within_cut (hrange : range.1.isNaN = false ∧ range.2.isNaN = false)
    (hr : r.kind ∈ Kind.scalarRegions) :
    Within (cut range r) y ↔ Within range y ∧ r.Admits y := by
  obtain ⟨b, hb⟩ := Region.exists_bounds hr
  obtain ⟨hlower, hupper⟩ := Region.bounds_isNaN hb
  rw [← Region.within_bounds hb, cut_of_bounds hb, tightened]
  unfold Within
  rw [Number.greater_le_iff hrange.1 hlower, Number.le_lesser_iff hrange.2 hupper]
  exact and_and_and_comm

theorem foldl_cut_isNaN {rs : List Region} (hrs : ∀ r ∈ rs, r.kind ∈ Kind.scalarRegions)
    (hrange : range.1.isNaN = false ∧ range.2.isNaN = false) :
    (rs.foldl cut range).1.isNaN = false ∧ (rs.foldl cut range).2.isNaN = false := by
  induction rs generalizing range with
  | nil => exact hrange
  | cons r rs ih =>
      obtain ⟨hr, hrs⟩ := List.forall_mem_cons.1 hrs
      exact ih hrs (cut_isNaN hrange hr)

theorem within_foldl_cut {rs : List Region} (hrs : ∀ r ∈ rs, r.kind ∈ Kind.scalarRegions)
    (hrange : range.1.isNaN = false ∧ range.2.isNaN = false) :
    Within (rs.foldl cut range) y ↔ Within range y ∧ ∀ r ∈ rs, r.Admits y := by
  induction rs generalizing range with
  | nil => simp
  | cons r rs ih =>
      obtain ⟨hr, hrs⟩ := List.forall_mem_cons.1 hrs
      rw [List.foldl_cons, ih hrs (cut_isNaN hrange hr), within_cut hrange hr,
        List.forall_mem_cons, and_assoc]

namespace Model

variable {m : Model} {v : VariableId}

/-- The regions that some constraints confine just one variable to. -/
def regionsIn (cs : List Constraint) (v : VariableId) : List Region :=
  cs.filterMap fun c =>
    match c.function with
    | .single w => if w = v then some c.region else none
    | _ => none

/--
The regions that constrain just one variable, of the kinds given, in the order of enumeration.
-/
def regionsOn (m : Model) (kinds : List Kind) (v : VariableId) : List Region :=
  regionsIn (kinds.flatMap (m.group .single)) v

/-- The least and the greatest value of a variable. -/
def variableRange (m : Model) (v : VariableId) : Float × Float :=
  (m.regionsOn Kind.scalarRegions v).foldl cut unbounded

theorem WellFormed.mem_regionsOn (h : m.WellFormed) {kinds : List Kind} :
    r ∈ m.regionsOn kinds v ↔ ∃ c ∈ m.constraints, c.function = .single v ∧
      c.region.kind ∈ kinds ∧ c.region = r := by
  simp only [regionsOn, regionsIn, List.mem_filterMap, List.mem_flatMap, group, List.mem_filter,
    decide_eq_true_eq]
  constructor
  · rintro ⟨c, ⟨k, hk, hc, -, hck⟩, hf⟩
    split at hf
    · rename_i w hw
      split at hf
      · rename_i hwv
        cases hf
        exact ⟨c, hc, hwv ▸ hw, (h.wellKinded c hc).region ▸ hck ▸ hk, rfl⟩
      · cases hf
    · cases hf
  · rintro ⟨c, hc, hf, hk, rfl⟩
    have hcf : c.id.function = .single := by rw [(h.wellKinded c hc).function, hf]; rfl
    refine ⟨c, ⟨_, hk, hc, hcf, (h.wellKinded c hc).region⟩, ?_⟩
    rw [hf]
    exact if_pos rfl

theorem WellFormed.kind_of_mem_regionsOn (h : m.WellFormed) {kinds : List Kind}
    (hr : r ∈ m.regionsOn kinds v) : r.kind ∈ kinds := by
  obtain ⟨c, -, -, hk, rfl⟩ := h.mem_regionsOn.1 hr
  exact hk

theorem WellFormed.variableRange_isNaN (h : m.WellFormed) (v : VariableId) :
    (m.variableRange v).1.isNaN = false ∧ (m.variableRange v).2.isNaN = false :=
  foldl_cut_isNaN (fun _ => h.kind_of_mem_regionsOn) unbounded_isNaN

/-- A number lies in the range of a variable if it satisfies all constraints on just it. -/
theorem WellFormed.within_variableRange (h : m.WellFormed) (hy : y.isNaN = false) :
    Within (m.variableRange v) y ↔ ∀ c ∈ m.constraints, c.function = .single v →
      c.region.kind ∈ Kind.scalarRegions → c.region.Admits y := by
  unfold variableRange
  rw [within_foldl_cut (fun _ => h.kind_of_mem_regionsOn) unbounded_isNaN,
    and_iff_right (within_unbounded hy)]
  constructor
  · exact fun hr c hc hf hk => hr _ (h.mem_regionsOn.2 ⟨c, hc, hf, hk, rfl⟩)
  · intro hc r hr
    obtain ⟨c, hcm, hf, hk, rfl⟩ := h.mem_regionsOn.1 hr
    exact hc c hcm hf hk

/-! ## The ranges by position -/

variable {ps : Positions} {c : Constraint} {kinds : List Kind}

theorem variable_eq_ok : c.variable = .ok v ↔ c.function = .single v := by
  unfold Constraint.variable
  split <;> simp_all

/-- A constraint on a single variable, of one of the kinds, is on a variable of the model. -/
theorem WellFormed.single_of_mem_group (h : m.WellFormed)
    (hc : c ∈ kinds.flatMap (m.group .single)) :
    ∃ v ∈ m.vars, c.function = .single v ∧ c.region.kind ∈ kinds := by
  obtain ⟨k, hk, hck⟩ := List.mem_flatMap.1 hc
  obtain ⟨hc, hkinds⟩ := List.mem_filter.1 hck
  obtain ⟨hfunction, hregion⟩ := of_decide_eq_true hkinds
  obtain ⟨v, hv⟩ : ∃ v, c.function = .single v := by
    have hkind : c.function.kind = .single := (h.wellKinded c hc).function.symm.trans hfunction
    cases hf : c.function with
    | single v => exact ⟨v, rfl⟩
    | affine _ _ | quadratic _ _ _ =>
        rw [hf] at hkind
        cases hkind
  refine ⟨v, h.constraint_vars c hc v ?_, hv, ?_⟩
  · rw [hv]
    exact List.mem_singleton_self v
  · rw [← (h.wellKinded c hc).region, hregion]
    exact hk

theorem tighten_map {g : VariableId → Float × Float} (hv : v ∈ ps.vars)
    (hf : c.function = .single v) (hr : c.region.kind ∈ Kind.scalarRegions) :
    tighten ps (ps.vars.map g) c =
      .ok (ps.vars.map (Function.update g v (cut (g v) c.region))) := by
  obtain ⟨b, hb⟩ := Region.exists_bounds hr
  rw [cut_of_bounds hb]
  refine bind_eq_ok.2 ⟨v, variable_eq_ok.2 hf, ?_⟩
  refine bind_eq_ok.2 ⟨_, Positions.position_of_mem hv, ?_⟩
  exact bind_eq_ok.2 ⟨b, hb, Positions.changedAt_index hv (tightened · b)⟩

theorem foldlM_tighten {cs : List Constraint} (hcs : ∀ c ∈ cs, ∃ v ∈ ps.vars,
      c.function = .single v ∧ c.region.kind ∈ Kind.scalarRegions)
    (g : VariableId → Float × Float) :
    cs.foldlM (tighten ps) (ps.vars.map g) =
      .ok (ps.vars.map fun v => (regionsIn cs v).foldl cut (g v)) := by
  induction cs generalizing g with
  | nil => rfl
  | cons c cs ih =>
      obtain ⟨⟨v, hv, hf, hr⟩, hcs⟩ := List.forall_mem_cons.1 hcs
      rw [List.foldlM_cons]
      refine bind_eq_ok.2 ⟨_, tighten_map hv hf hr, ?_⟩
      rw [ih hcs]
      refine congrArg Except.ok (List.map_congr_left fun w _ => ?_)
      by_cases hw : v = w
      · subst hw
        simp [regionsIn, hf]
      · simp [regionsIn, hf, hw, Function.update_of_ne (Ne.symm hw)]

/-- All look-ups succeed, and each variable gets its range. -/
theorem WellFormed.variableRanges_eq (h : m.WellFormed) (hvars : ps.vars = m.vars) :
    m.variableRanges ps = .ok (m.vars.map m.variableRange) := by
  have hstart : List.replicate ps.size unbounded = ps.vars.map fun _ => unbounded := by
    rw [List.map_const', Positions.size]
  unfold variableRanges
  rw [hstart, foldlM_tighten (fun c hc => hvars ▸ h.single_of_mem_group hc), hvars]
  rfl

end Model

end Extremum
