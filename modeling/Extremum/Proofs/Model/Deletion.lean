import Extremum.Proofs.Expr.Polynomial
import Extremum.Proofs.Model.Store

/-!
# Deleting a variable is setting it to zero

A function without the terms that mention a variable has the values that the function has where the
variable is zero. So after the deletion of a variable all functions of a model have the values they
had before at points where the variable is zero, but for the constraints on just this variable,
which are gone. The order in which variables are deleted makes no difference.
-/

namespace Extremum

/-! ## Functions without a variable -/

namespace ScalarFunction

variable {α β : Type} {v w : VariableId} {y z : VariableId → ℚ}

/-- The function is just a variable. -/
def isJust (v : VariableId) : ScalarFunction α → Bool
  | single w => w = v
  | _ => false

theorem isJust_without (f : ScalarFunction α) : (f.without v).isJust w = f.isJust w := by
  cases f <;> rfl

theorem isJust_map (k : α → β) (f : ScalarFunction α) : (f.map k).isJust v = f.isJust v := by
  cases f <;> rfl

theorem without_map (k : α → β) (f : ScalarFunction α) :
    (f.map k).without v = (f.without v).map k := by
  cases f <;> simp [map, without, termsWithout, productsWithout, List.filter_map, Function.comp_def]

theorem without_comm (f : ScalarFunction α) :
    (f.without v).without w = (f.without w).without v := by
  cases f with
  | single u => rfl
  | affine terms c => simp only [without, termsWithout, List.filter_comm]
  | quadratic terms products c =>
      simp only [without, termsWithout, productsWithout, List.filter_comm]

theorem without_of_not_mem {f : ScalarFunction α} (h : v ∉ f.vars) : f.without v = f := by
  have hterms : ∀ {terms : List (AffineTerm α)}, v ∉ terms.map (·.var) →
      termsWithout v terms = terms := fun hv =>
    List.filter_eq_self.2 fun t ht => by
      simpa using fun heq : t.var = v => hv (heq ▸ List.mem_map_of_mem ht)
  cases f with
  | single w => rfl
  | affine terms c => rw [without, hterms h]
  | quadratic terms products c =>
      rw [vars, List.mem_append, not_or] at h
      have hproducts : productsWithout v products = products :=
        List.filter_eq_self.2 fun t ht => by
          have hv : v ∉ [t.first, t.second] := fun hv => h.2 (List.mem_flatMap.2 ⟨t, ht, hv⟩)
          have hne : t.first ≠ v ∧ t.second ≠ v := by
            constructor
            · rintro rfl
              exact hv List.mem_cons_self
            · rintro rfl
              exact hv (List.mem_pair.2 (.inr rfl))
          simpa using hne
      rw [without, hterms h.1, hproducts]

/-- The value of a function depends on its variables only. -/
theorem value_congr {f : ScalarFunction ℚ} (h : ∀ v ∈ f.vars, y v = z v) :
    f.value y = f.value z := by
  have hterms : ∀ {terms : List (AffineTerm ℚ)}, (∀ v ∈ terms.map (·.var), y v = z v) →
      (terms.map fun t => t.coefficient * y t.var) = terms.map fun t => t.coefficient * z t.var :=
    fun hv => List.map_congr_left fun t ht => by rw [hv _ (List.mem_map_of_mem ht)]
  cases f with
  | single w => exact h w (List.mem_singleton_self w)
  | affine terms c => rw [value, value, hterms h]
  | quadratic terms products c =>
      rw [value, value, hterms fun v hv => h v (List.mem_append_left _ hv)]
      congr 2
      refine List.map_congr_left fun t ht => ?_
      have hvars : ∀ v ∈ [t.first, t.second], y v = z v := fun v hv =>
        h v (List.mem_append_right _ (List.mem_flatMap.2 ⟨t, ht, hv⟩))
      rw [hvars t.first (by simp), hvars t.second (by simp)]

/-- The sum over some of the terms is the sum over all of them if the others amount to nothing. -/
theorem sum_filter_eq {τ : Type} {keep : τ → Bool} {a b : τ → ℚ}
    (hkeep : ∀ t, keep t = true → a t = b t) (hdrop : ∀ t, keep t = false → b t = 0)
    (ts : List τ) : ((ts.filter keep).map a).sum = (ts.map b).sum := by
  induction ts with
  | nil => rfl
  | cons t ts ih =>
      rw [List.map_cons, List.sum_cons, ← ih]
      cases ht : keep t with
      | true => rw [List.filter_cons_of_pos ht, List.map_cons, List.sum_cons, hkeep t ht]
      | false => rw [List.filter_cons_of_neg (by simp [ht]), hdrop t ht, zero_add]

theorem sum_termsWithout (terms : List (AffineTerm ℚ)) :
    ((termsWithout v terms).map fun t => t.coefficient * y t.var).sum =
      (terms.map fun t => t.coefficient * Function.update y v 0 t.var).sum := by
  refine sum_filter_eq (fun t ht => ?_) (fun t ht => ?_) terms
  · rw [Function.update_of_ne (by simpa using ht)]
  · have heq : t.var = v := by simpa using ht
    rw [heq, Function.update_self, mul_zero]

/-- A product that mentions the variable, in one factor or in both, is zero where it is zero. -/
theorem sum_productsWithout (products : List (QuadraticTerm ℚ)) :
    ((productsWithout v products).map fun t =>
      if t.first = t.second then 1 / 2 * t.coefficient * y t.first ^ 2
      else t.coefficient * y t.first * y t.second).sum =
    (products.map fun t =>
      if t.first = t.second then 1 / 2 * t.coefficient * Function.update y v 0 t.first ^ 2
      else t.coefficient * Function.update y v 0 t.first * Function.update y v 0 t.second).sum := by
  refine sum_filter_eq (fun t ht => ?_) (fun t ht => ?_) products
  · obtain ⟨hfirst, hsecond⟩ : t.first ≠ v ∧ t.second ≠ v := by simpa using ht
    rw [Function.update_of_ne hfirst, Function.update_of_ne hsecond]
  · have heq : t.first = v ∨ t.second = v := by
      by_contra hne
      rw [not_or] at hne
      simp [hne.1, hne.2] at ht
    split
    · rename_i hsame
      -- a square has its variable in both factors, so either way it is the one that is zero
      have hfirst : t.first = v := by
        rcases heq with heq | heq
        · exact heq
        · rw [hsame, heq]
      rw [hfirst, Function.update_self]
      ring
    · rcases heq with heq | heq
      · rw [heq, Function.update_self, mul_zero, zero_mul]
      · rw [heq, Function.update_self, mul_zero]

/-- A function without a variable has the values of the function where the variable is zero. -/
theorem value_without {f : ScalarFunction ℚ} (h : f.isJust v = false) :
    (f.without v).value y = f.value (Function.update y v 0) := by
  cases f with
  | single w =>
      have hne : w ≠ v := by simpa [isJust] using h
      exact (Function.update_of_ne hne 0 y).symm
  | affine terms c => rw [without, value, value, sum_termsWithout]
  | quadratic terms products c =>
      rw [without, value, value, sum_termsWithout, sum_productsWithout]

end ScalarFunction

/-! ## Models without a variable -/

def Constraint.without (v : VariableId) (c : Constraint) : Constraint :=
  { c with function := c.function.without v }

namespace Model

open Constraint (without)

variable {m m' : Model} {v w : VariableId} {c c' : Constraint} {f f' : ScalarFunction}
  {y : VariableId → ℚ}

theorem constraintWithout_eq (v : VariableId) (c : Constraint) :
    constraintWithout v c = if c.function.isJust v then none else some (c.without v) := by
  obtain ⟨id, f, region⟩ := c
  cases f with
  | single w => simp [constraintWithout, ScalarFunction.isJust, Constraint.without,
      ScalarFunction.without]
  | affine _ _ | quadratic _ _ _ => rfl

theorem objectiveWithout_eq (v : VariableId) (f : ScalarFunction) :
    objectiveWithout v f = if f.isJust v then .zero else f.without v := by
  cases f with
  | single w => simp [objectiveWithout, ScalarFunction.isJust, ScalarFunction.without]
  | affine _ _ | quadratic _ _ _ => rfl

theorem filterMap_constraintWithout (v : VariableId) (cs : List Constraint) :
    cs.filterMap (constraintWithout v) =
      (cs.filter fun c => !c.function.isJust v).map (·.without v) := by
  induction cs with
  | nil => rfl
  | cons c cs ih =>
      rw [List.filterMap_cons, constraintWithout_eq, ih]
      cases hc : c.function.isJust v with
      | true => rw [List.filter_cons_of_neg (by simp [hc])]; rfl
      | false => rw [List.filter_cons_of_pos (by simp [hc])]; rfl

/-! ### Two variables -/

theorem constraintWithout_comm (v w : VariableId) (c : Constraint) :
    (constraintWithout v c).bind (constraintWithout w) =
      (constraintWithout w c).bind (constraintWithout v) := by
  -- what is left says nothing of the order
  have hstep (v w : VariableId) : (constraintWithout v c).bind (constraintWithout w) =
      if c.function.isJust v || c.function.isJust w then none
      else some ((c.without v).without w) := by
    rw [constraintWithout_eq]
    cases hv : c.function.isJust v with
    | true => rfl
    | false =>
        simp only [Bool.false_eq_true, ↓reduceIte, Option.bind_some, Bool.false_or]
        rw [constraintWithout_eq, Constraint.without, ScalarFunction.isJust_without]
  rw [hstep, hstep, Bool.or_comm, Constraint.without, Constraint.without, Constraint.without,
    Constraint.without, ScalarFunction.without_comm]

theorem objectiveWithout_comm (v w : VariableId) (f : ScalarFunction) :
    objectiveWithout w (objectiveWithout v f) = objectiveWithout v (objectiveWithout w f) := by
  have hstep (v w : VariableId) : objectiveWithout w (objectiveWithout v f) =
      if f.isJust v || f.isJust w then .zero else (f.without v).without w := by
    rw [objectiveWithout_eq v]
    cases hv : f.isJust v with
    | true => rfl
    | false =>
        simp only [Bool.false_eq_true, ↓reduceIte, Bool.false_or]
        rw [objectiveWithout_eq, ScalarFunction.isJust_without]
  rw [hstep, hstep, Bool.or_comm, ScalarFunction.without_comm]

/-- Deleting two variables in one order or the other leads to the same model. -/
theorem deleteVariable_comm (hv : v ∈ m.vars) (hw : w ∈ m.vars) (hne : w ≠ v) :
    ∃ m', (m.deleteVariable v >>= (·.deleteVariable w)) = .ok m' ∧
      (m.deleteVariable w >>= (·.deleteVariable v)) = .ok m' := by
  simp only [bind_eq_ok, deleteVariable_eq_ok, hv, hw, true_and, exists_eq_left', List.mem_filter,
    decide_eq_true_eq, hne, hne.symm, ne_eq, not_false_eq_true]
  simp only [List.filterMap_filterMap, List.filter_comm, constraintWithout_comm w v,
    objectiveWithout_comm w v]

/-! ### Values -/

/-- The exact value of a function of a model, where the variables have the given values. -/
def exactValue (m : Model) (f : ScalarFunction) (y : VariableId → ℚ) : Except Fault ℚ := do
  let ps ← Positions.ofList m.vars
  let e ← Expr.ofFunction ps.position f.exact
  e.evaluateIn .rationals Expr.unresolved (m.vars.map y)

theorem WellFormed.exactValue_eq (h : m.WellFormed) (hf : ∀ v ∈ f.vars, v ∈ m.vars) :
    m.exactValue f y = .ok (f.exact.value y) := by
  have hvars : f.exact.vars = f.vars := ScalarFunction.vars_map _ f
  let ps : Positions := ⟨m.vars, h.nodup⟩
  have hps : Positions.ofList m.vars = .ok ps := Positions.ofList_eq_ok.2 ⟨h.nodup, rfl⟩
  have hexact : ∀ v ∈ f.exact.vars, v ∈ ps.vars := hvars ▸ hf
  have he : Expr.ofFunction ps.position f.exact = .ok (Expr.polynomial ps.index f.exact) := by
    rw [Expr.ofFunction_eq, Positions.unlessMissing_eq_ok]
    exact ⟨fun v hv => hexact v (ScalarFunction.mem_lookedUp.1 hv), rfl⟩
  have hentry : ∀ v ∈ f.exact.vars, Expr.entry ps (m.vars.map y) v = y v := fun v hv => by
    have hi : m.vars.idxOf v < m.vars.length := List.idxOf_lt_length_of_mem (hexact v hv)
    simp [Expr.entry, ps, hi]
  refine bind_eq_ok.2 ⟨ps, hps, bind_eq_ok.2 ⟨_, he, ?_⟩⟩
  rw [← ScalarFunction.value_congr hentry]
  exact Expr.hasValue_polynomial (by simp [ps, Positions.size]) hexact

/-- One function has in a model the values that another has before where the variable is zero. -/
def AgreesAtZero (m m' : Model) (v : VariableId) (f f' : ScalarFunction) : Prop :=
  ∀ y : VariableId → ℚ, ∃ r, m'.exactValue f' y = .ok r ∧
    m.exactValue f (Function.update y v 0) = .ok r

theorem WellFormed.agreesAtZero (h : m.WellFormed) (h' : m'.WellFormed)
    (hf : ∀ u ∈ f.vars, u ∈ m.vars) (hf' : ∀ u ∈ f'.vars, u ∈ m'.vars)
    (hvalue : ∀ y, f'.exact.value y = f.exact.value (Function.update y v 0)) :
    m.AgreesAtZero m' v f f' := fun y =>
  ⟨f'.exact.value y, h'.exactValue_eq hf', hvalue y ▸ h.exactValue_eq hf⟩

theorem exact_value_without (h : f.isJust v = false) :
    (f.without v).exact.value y = f.exact.value (Function.update y v 0) := by
  rw [ScalarFunction.exact, ← ScalarFunction.without_map]
  exact ScalarFunction.value_without (by rw [ScalarFunction.isJust_map, h])

/-- An objective that is just the variable becomes an affine function, which is zero everywhere. -/
theorem exact_value_objectiveWithout :
    (objectiveWithout v f).exact.value y = f.exact.value (Function.update y v 0) := by
  rw [objectiveWithout_eq]
  cases hf : f.isJust v with
  | false => exact exact_value_without hf
  | true =>
      cases f with
      | affine _ _ | quadratic _ _ _ => cases hf
      | single w =>
          obtain rfl : w = v := by simpa [ScalarFunction.isJust] using hf
          have hzero : Number.exact 0 = 0 := by
            have hunpack : (0 : Float).toModel.unpack = .zero .positive := rfl
            rw [Number.exact, hunpack]
            rfl
          simp [ScalarFunction.exact, ScalarFunction.map, ScalarFunction.value,
            ScalarFunction.zero, hzero]

/-! ### Deletion -/

/-- A constraint of a model is left in another, in which a variable is taken to be zero. -/
structure Keeps (m m' : Model) (v : VariableId) (c c' : Constraint) : Prop where
  id : c'.id = c.id
  region : c'.region = c.region
  kind : c'.function.kind = c.function.kind
  unchanged : v ∉ c.function.vars → c'.function = c.function
  agrees : m.AgreesAtZero m' v c.function c'.function

theorem WellFormed.keeps (h : m.WellFormed) (h' : m'.WellFormed) (hc : c ∈ m.constraints)
    (hc' : c.without v ∈ m'.constraints) (hjust : c.function.isJust v = false) :
    m.Keeps m' v c (c.without v) where
  id := rfl
  region := rfl
  kind := ScalarFunction.kind_without _
  unchanged := ScalarFunction.without_of_not_mem
  agrees := h.agreesAtZero h' (h.constraint_vars c hc) (h'.constraint_vars _ hc')
    fun _ => exact_value_without hjust

theorem ids_group_without (hd : m.deleteVariable v = .ok m') (function region : Kind) :
    (m'.group function region).map (·.id) =
      ((m.group function region).filter fun c => !c.function.isJust v).map (·.id) := by
  obtain ⟨-, rfl⟩ := deleteVariable_eq_ok.1 hd
  rw [group, group, filterMap_constraintWithout, List.filter_map, List.map_map, List.filter_comm]
  rfl

theorem Reachable.constraint_of_single (h : m.Reachable) (hd : m.deleteVariable v = .ok m')
    (hc : c ∈ m.constraints) (hsingle : c.function = .single v) :
    m'.constraint c.id = .error (.unknownConstraint c.id) := by
  have hnone : m'.find? c.id = none := by
    obtain ⟨-, rfl⟩ := deleteVariable_eq_ok.1 hd
    rw [find?, filterMap_constraintWithout, List.find?_eq_none]
    intro c' hc' hid
    obtain ⟨c₀, hc₀, rfl⟩ := List.mem_map.1 hc'
    obtain ⟨hmem, hjust⟩ := List.mem_filter.1 hc₀
    -- the identifier belongs to one constraint only, which is on just the variable
    obtain rfl : c₀ = c := List.inj_on_of_nodup_map h.nodup_ids hmem hc (of_decide_eq_true hid)
    simp [hsingle, ScalarFunction.isJust] at hjust
  rw [constraint, hnone]

/--
Deleting a variable is setting it to zero. Constraints on just the variable are gone. All others
keep their identifiers, regions and order, and their functions have the exact values that they had
where the variable is zero, as does the objective. Two variables can be deleted in either order,
with the same model as the result.
-/
theorem Reachable.deleteVariable_at_zero (h : m.Reachable) (hv : v ∈ m.vars) :
    ∃ m', m.deleteVariable v = .ok m' ∧
      List.Forall₂ (m.Keeps m' v) (m.constraints.filter fun c => !c.function.isJust v)
        m'.constraints ∧
      (∀ function region, (m'.group function region).map (·.id) =
        ((m.group function region).filter fun c => !c.function.isJust v).map (·.id)) ∧
      (∀ c ∈ m.constraints, c.function = .single v →
        m'.constraint c.id = .error (.unknownConstraint c.id)) ∧
      m.AgreesAtZero m' v m.objective m'.objective ∧
      ∀ w ∈ m.vars, w ≠ v → ∃ m'', m'.deleteVariable w = .ok m'' ∧
        (m.deleteVariable w >>= (·.deleteVariable v)) = .ok m'' := by
  have hw := h.wellFormed
  obtain ⟨m', hd⟩ : ∃ m', m.deleteVariable v = .ok m' := ⟨_, deleteVariable_eq_ok.2 ⟨hv, rfl⟩⟩
  have hw' : m'.WellFormed := hw.deleteVariable hd
  refine ⟨m', hd, ?_, ids_group_without hd, fun c => h.constraint_of_single hd, ?_, ?_⟩
  · have hconstraints : m'.constraints =
        (m.constraints.filter fun c => !c.function.isJust v).map (·.without v) := by
      obtain ⟨-, rfl⟩ := deleteVariable_eq_ok.1 hd
      exact filterMap_constraintWithout v m.constraints
    rw [hconstraints, List.forall₂_map_right_iff, List.forall₂_same]
    intro c hc
    obtain ⟨hmem, hjust⟩ := List.mem_filter.1 hc
    exact hw.keeps hw' hmem (hconstraints ▸ List.mem_map_of_mem hc) (by simpa using hjust)
  · refine hw.agreesAtZero hw' hw.objective_vars hw'.objective_vars fun y => ?_
    obtain ⟨-, rfl⟩ := deleteVariable_eq_ok.1 hd
    exact exact_value_objectiveWithout
  · intro w hmem hne
    obtain ⟨m'', hboth, hother⟩ := deleteVariable_comm hv hmem hne
    rw [hd] at hboth
    exact ⟨m'', hboth, hother⟩

/-- A product with the deleted variable and a bound on it are gone. -/
theorem deleteVariable_at_zero_two :
    let m := empty.performAll [.addVariables 2,
      .addConstraint (.function (.quadratic [⟨1, ⟨2⟩⟩] [⟨2, ⟨1⟩, ⟨2⟩⟩, ⟨2, ⟨1⟩, ⟨1⟩⟩] 5))
        (.lessThan ⟨3, rfl⟩),
      .addConstraint (.function (.single ⟨1⟩)) (.greaterThan ⟨0, rfl⟩),
      .setObjective (.function (.single ⟨1⟩)) (.text "min")]
    ∃ m' m'', m.deleteVariable ⟨1⟩ = .ok m' ∧ m'.constraints.length = 1 ∧
      m.AgreesAtZero m' ⟨1⟩ (.single ⟨1⟩) .zero ∧ m'.deleteVariable ⟨2⟩ = .ok m'' := by
  intro m
  have h : m.Reachable := Reachable.empty.performAll _
  obtain ⟨m', hd, hkeeps, -, -, hobjective, hcomm⟩ :=
    h.deleteVariable_at_zero (show ⟨1⟩ ∈ m.vars by decide)
  obtain ⟨m'', hm'', -⟩ := hcomm ⟨2⟩ (show ⟨2⟩ ∈ m.vars by decide) (by decide)
  refine ⟨m', m'', hd, hkeeps.length_eq.symm, ?_, hm''⟩
  obtain ⟨-, rfl⟩ := deleteVariable_eq_ok.1 hd
  exact hobjective

end Model

end Extremum
