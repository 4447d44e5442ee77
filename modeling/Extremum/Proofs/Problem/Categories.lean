import Extremum.Problem.Categories
import Extremum.Proofs.Problem.Bounds

/-!
# Categories and constraints

Categories are given to variables one after another, and what is given last counts. As all binary
ones come before the integer ones, the order in which constraints were added does not matter.
-/

namespace Extremum

variable {v : VariableId} {c : Category} {as : List (VariableId × Category)}
  {f : VariableId → Category}

/-! ## Categories, one after another -/

/-- The categories of all variables after one of them is given another one. -/
def assigned (f : VariableId → Category) (a : VariableId × Category) : VariableId → Category :=
  Function.update f a.1 a.2

theorem foldl_assigned (as : List (VariableId × Category)) (f : VariableId → Category)
    (v : VariableId) : as.foldl assigned f v =
      ((as.filter (·.1 = v)).getLast?.map (·.2)).getD (f v) := by
  induction as using List.reverseRecOn with
  | nil => rfl
  | append_singleton as a ih =>
      rw [List.foldl_append, List.filter_append]
      by_cases ha : a.1 = v
      · subst ha
        simp [assigned]
      · simpa [assigned, ha, Function.update_of_ne (Ne.symm ha)] using ih

/-- If only one category is given, then to the variables that are named. -/
theorem foldl_assigned_of_forall (h : ∀ a ∈ as, a.2 = c) :
    as.foldl assigned f v = if ∃ a ∈ as, a.1 = v then c else f v := by
  induction as generalizing f with
  | nil => simp
  | cons a as ih =>
      obtain ⟨hc, has⟩ := List.forall_mem_cons.1 h
      rw [List.foldl_cons, ih has]
      simp only [List.exists_mem_cons_iff]
      by_cases hlater : ∃ a ∈ as, a.1 = v
      · rw [if_pos hlater, if_pos (.inr hlater)]
      · rw [if_neg hlater]
        by_cases ha : a.1 = v
        · subst ha
          simp [assigned, hc]
        · rw [if_neg (not_or.2 ⟨ha, hlater⟩), assigned, Function.update_of_ne (Ne.symm ha)]

/-- The category that a constraint gives to a variable. -/
def Constraint.assignment? (c : Constraint) : Option (VariableId × Category) :=
  match c.function, c.region.category with
  | .single v, .ok category => some (v, category)
  | _, _ => none

theorem Region.exists_category {r : Region} (h : r.kind ∈ Kind.categoryRegions) :
    ∃ c, r.category = .ok c := by
  cases r with
  | zeroOne | integer => exact ⟨_, rfl⟩
  | lessThan _ | greaterThan _ | equalTo _ _ | interval _ _ _ =>
      simp [kind, Kind.categoryRegions] at h

namespace Model

variable {m : Model}

/-- A constraint of the model confines a variable to a region. -/
def Confines (m : Model) (v : VariableId) (r : Region) : Prop :=
  ∃ c ∈ m.constraints, c.function = .single v ∧ c.region = r

/-- The categories given to variables, in the order in which they are applied. -/
def categoryAssignments (m : Model) : List (VariableId × Category) :=
  (Kind.categoryRegions.flatMap (m.group .single)).filterMap Constraint.assignment?

/-- The category of a variable: the one applied last. -/
def variableCategory (m : Model) (v : VariableId) : Category :=
  m.categoryAssignments.foldl assigned (fun _ => .continuous) v

/-- What the constraints on single variables in regions of a kind give to variables. -/
def assignmentsBy (m : Model) (k : Kind) : List (VariableId × Category) :=
  (m.group .single k).filterMap Constraint.assignment?

theorem categoryAssignments_eq (m : Model) :
    m.categoryAssignments = m.assignmentsBy .zeroOne ++ m.assignmentsBy .integer := by
  simp [categoryAssignments, assignmentsBy, Kind.categoryRegions]

theorem WellFormed.mem_assignmentsBy (h : m.WellFormed) {k : Kind} : (v, c) ∈ m.assignmentsBy k ↔
    ∃ r, r.kind = k ∧ r.category = .ok c ∧ m.Confines v r := by
  simp only [assignmentsBy, group, List.mem_filterMap, List.mem_filter, decide_eq_true_eq]
  constructor
  · rintro ⟨d, ⟨hd, -, hk⟩, hassigned⟩
    unfold Constraint.assignment? at hassigned
    split at hassigned
    · rename_i w category hfunction hcategory
      cases hassigned
      exact ⟨d.region, (h.wellKinded d hd).region ▸ hk, hcategory, d, hd, hfunction, rfl⟩
    · cases hassigned
  · rintro ⟨_, rfl, hcategory, d, hd, hfunction, rfl⟩
    refine ⟨d, ⟨hd, ?_, (h.wellKinded d hd).region⟩, ?_⟩
    · rw [(h.wellKinded d hd).function, hfunction]
      rfl
    · simp [Constraint.assignment?, hfunction, hcategory]

theorem WellFormed.foldl_assignmentsBy (h : m.WellFormed) {r : Region} (hr : r.category = .ok c)
    (hkind : ∀ r', r'.kind = r.kind → r' = r) [Decidable (m.Confines v r)] :
    (m.assignmentsBy r.kind).foldl assigned f v = if m.Confines v r then c else f v := by
  have honly : ∀ a ∈ m.assignmentsBy r.kind, a.2 = c := by
    rintro ⟨w, c'⟩ ha
    obtain ⟨r', hk, hc', -⟩ := h.mem_assignmentsBy.1 ha
    obtain rfl := hkind r' hk
    exact Except.ok.inj (hc'.symm.trans hr)
  have hany : (∃ a ∈ m.assignmentsBy r.kind, a.1 = v) ↔ m.Confines v r := by
    constructor
    · rintro ⟨⟨w, c'⟩, ha, rfl⟩
      obtain ⟨r', hk, -, hconfines⟩ := h.mem_assignmentsBy.1 ha
      exact hkind r' hk ▸ hconfines
    · intro hconfines
      exact ⟨(v, c), h.mem_assignmentsBy.2 ⟨r, rfl, hr, hconfines⟩, rfl⟩
  rw [foldl_assigned_of_forall honly]
  simp only [hany]

open Classical in
/-- An integer variable stays one, whatever else is required of it. -/
theorem WellFormed.variableCategory (h : m.WellFormed) (v : VariableId) :
    m.variableCategory v = if m.Confines v .integer then .integer
      else if m.Confines v .zeroOne then .binary else .continuous := by
  have hkind : ∀ r r' : Region, r' = .zeroOne ∨ r' = .integer → r.kind = r'.kind → r = r' := by
    rintro r r' (rfl | rfl) hk <;> cases r <;> first | rfl | cases hk
  calc m.variableCategory v
    _ = (m.assignmentsBy .integer).foldl assigned
          ((m.assignmentsBy .zeroOne).foldl assigned fun _ => .continuous) v := by
        rw [Model.variableCategory, categoryAssignments_eq, List.foldl_append]
    _ = if m.Confines v .integer then .integer
          else (m.assignmentsBy .zeroOne).foldl assigned (fun _ => .continuous) v :=
        h.foldl_assignmentsBy (r := .integer) rfl (hkind · _ (.inr rfl))
    _ = _ := by
        refine congrArg (ite _ _) ?_
        exact h.foldl_assignmentsBy (r := .zeroOne) rfl (hkind · _ (.inl rfl))

/-! ## The categories by position -/

variable {ps : Positions} {d : Constraint} {g : VariableId → Option Category}

theorem assignment?_of_single (hf : d.function = .single v) (hr : d.region.category = .ok c) :
    d.assignment? = some (v, c) := by
  rw [Constraint.assignment?, hf, hr]

theorem categorize_map (hv : v ∈ ps.vars) (hf : d.function = .single v)
    (hr : d.region.category = .ok c) (replaced : List (VariableId × Category)) :
    ∃ replaced', categorize ps ⟨ps.vars.map g, replaced⟩ d =
      .ok ⟨ps.vars.map (Function.update g v (some c)), replaced'⟩ := by
  have hposition : ps.position v = .ok (ps.index v) := Positions.position_of_mem hv
  have hgiven := Positions.changedAt_index (g := g) hv fun _ => some c
  simp only [categorize, variable_eq_ok.2 hf, hposition, hr, hgiven, bind, Except.bind, pure,
    Except.pure]
  exact ⟨_, rfl⟩

theorem foldlM_categorize {ds : List Constraint} (hds : ∀ d ∈ ds, ∃ v ∈ ps.vars,
      d.function = .single v ∧ d.region.kind ∈ Kind.categoryRegions)
    (g : VariableId → Option Category) (replaced : List (VariableId × Category)) :
    ∃ g' replaced', ds.foldlM (categorize ps) ⟨ps.vars.map g, replaced⟩ =
      .ok ⟨ps.vars.map g', replaced'⟩ ∧ (fun v => (g' v).getD .continuous) =
        (ds.filterMap Constraint.assignment?).foldl assigned fun v => (g v).getD .continuous := by
  induction ds generalizing g replaced with
  | nil => exact ⟨g, replaced, rfl, rfl⟩
  | cons d ds ih =>
      obtain ⟨⟨v, hv, hf, hr⟩, hds⟩ := List.forall_mem_cons.1 hds
      obtain ⟨c, hc⟩ := Region.exists_category hr
      obtain ⟨replaced₁, hstep⟩ := categorize_map (g := g) hv hf hc replaced
      obtain ⟨g', replaced', hrest, hg'⟩ := ih hds (Function.update g v (some c)) replaced₁
      refine ⟨g', replaced', ?_, ?_⟩
      · rw [List.foldlM_cons]
        exact bind_eq_ok.2 ⟨_, hstep, hrest⟩
      · rw [hg', List.filterMap_cons_some (assignment?_of_single hf hc), List.foldl_cons]
        refine congrArg (List.foldl assigned · _) (funext fun w => ?_)
        by_cases hw : w = v
        · subst hw
          simp [assigned]
        · simp [assigned, hw]

/-- All look-ups succeed, and each variable gets its category. -/
theorem WellFormed.givenCategories_eq (h : m.WellFormed) (hvars : ps.vars = m.vars) :
    ∃ given, m.givenCategories ps = .ok given ∧
      given.categories = m.vars.map m.variableCategory := by
  have hstart : List.replicate ps.size (none : Option Category) = ps.vars.map fun _ => none := by
    rw [List.map_const', Positions.size]
  have hds : ∀ d ∈ Kind.categoryRegions.flatMap (m.group .single), ∃ v ∈ ps.vars,
      d.function = .single v ∧ d.region.kind ∈ Kind.categoryRegions :=
    fun d hd => hvars ▸ h.single_of_mem_group hd
  obtain ⟨g', replaced', hfold, hg'⟩ := foldlM_categorize hds (fun _ => none) []
  refine ⟨⟨ps.vars.map g', replaced'⟩, ?_, ?_⟩
  · rw [givenCategories, hstart, hfold]
  · rw [GivenCategories.categories, List.map_map, hvars]
    exact List.map_congr_left fun v _ => congrFun hg' v

end Model

end Extremum
