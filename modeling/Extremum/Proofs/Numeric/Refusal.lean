import Extremum.Proofs.Expr.Resolution
import Extremum.Proofs.Numeric.Features
import Extremum.Proofs.Numeric.Report
import Extremum.Proofs.Problem.Limits
import Extremum.Proofs.Problem.Positions

/-!
# What differential evolution refuses

Differential evolution searches within finite bounds. Two checks see to that, before anything is
asked of the evaluator or the minimizer: some variable must have a finite bound of its own, and the
bounds of all variables must be finite once those of binary variables are cut to zero and one. On
vectors, the two agree except for problems whose variables are all binary and without bounds, or
that have none: these are refused for lack of bounds.
-/

namespace Extremum

variable {fault : Fault}

theorem Fault.IsUnusable.not_isRefusal (h : fault.IsUnusable) : ¬ fault.IsRefusal := by
  cases fault with
  | foreign kind message => exact False.elim h
  | unsupportedMethod _ | featureUnsupported _ _ | featureRequired _ _ | finiteBoundsRequired _ =>
      exact False.elim h
  | _ => exact id

theorem Fault.IsReport.not_isRefusal (h : fault.IsReport) : ¬ fault.IsRefusal := by
  cases fault with
  | solverFailure message => exact id
  | _ => exact False.elim h

theorem not_isRefused_of_isUnusable {α : Type} {x : Except Fault α}
    (h : ∀ fault, x = .error fault → fault.IsUnusable) : ¬ IsRefused x := by
  cases x with
  | error fault => exact (h fault rfl).not_isRefusal
  | ok a => exact id

/-! ## What evaluators refuse -/

namespace UnifiedEvaluator

variable {u : UnifiedEvaluator} {block : NonlinearBlock} {s s' : EvaluatorState} {i : Nat}

/-- The nonlinear evaluator itself gives a fault, for whatever it is asked. -/
def GivesFault (u : UnifiedEvaluator) (fault : Fault) : Prop :=
  ∃ block, u.inner = some block ∧ (block.evaluator.prepare [expressionGraphs] = .error fault ∨
    block.evaluator.features = .error fault ∨ ∃ i, given block.evaluator i = .error fault)

theorem givesFault_of_prepare (h : resultOf (u.prepare [expressionGraphs] s) = .error fault) :
    u.GivesFault fault := by
  rw [resultOf_prepare] at h
  unfold preparation at h
  cases hb : u.inner with
  | none =>
      rw [hb] at h
      cases h
  | some block =>
      rw [hb] at h
      exact ⟨block, hb, .inl h⟩

theorem givesFault_of_features (h : resultOf (u.features s) = .error fault) :
    u.GivesFault fault := by
  rw [resultOf_features] at h
  unfold available at h
  cases hb : u.inner with
  | none =>
      rw [hb] at h
      cases h
  | some block =>
      rw [hb] at h
      exact ⟨block, hb, .inr (.inl h)⟩

theorem givesFault_of_innerExpression (hb : u.inner = some block)
    (h : u.innerExpression block.evaluator i s = .error fault s') (hr : fault.IsRefusal) :
    u.GivesFault fault := by
  rw [innerExpression_eq] at h
  cases hlookup : s.resolved.lookup i with
  | some e =>
      rw [hlookup] at h
      cases h
  | none =>
      rw [hlookup] at h
      cases hresolved : u.resolvedAt block.evaluator i with
      | ok e =>
          rw [hresolved] at h
          cases h
      | error fault' =>
          rw [hresolved] at h
          cases h
          rcases bind_eq_error.1 hresolved with hgiven | ⟨e, -, hresolve⟩
          · exact ⟨block, hb, .inr (.inr ⟨i, hgiven⟩)⟩
          · obtain ⟨v, -, hposition⟩ := e.exists_reference_of_resolve_error hresolve
            rw [(Positions.position_eq_error hposition).2] at hr
            exact False.elim hr

theorem givesFault_of_objectiveExpression (h : u.objectiveExpression s = .error fault s')
    (hr : fault.IsRefusal) : u.GivesFault fault := by
  cases ho : u.objective with
  | some e =>
      simp only [objectiveExpression, ho] at h
      cases h
  | none =>
      cases hb : u.inner with
      | none =>
          simp only [objectiveExpression, ho, hb] at h
          cases h
      | some block =>
          cases hobjective : block.hasObjective with
          | false =>
              simp only [objectiveExpression, ho, hb, hobjective] at h
              cases h
          | true =>
              rw [objectiveExpression_inner ho hb hobjective] at h
              exact givesFault_of_innerExpression hb h hr

theorem not_isRefusal_of_algebraicConstraint {index : Int}
    (h : u.algebraicConstraint index s = .error fault s') : ¬ fault.IsRefusal := by
  unfold algebraicConstraint at h
  cases he : u.constraints[(index - u.innerCount - 1).toNat]? with
  | some e =>
      rw [he] at h
      cases h
  | none =>
      rw [he] at h
      cases h
      exact id

theorem givesFault_of_constraintExpression {index : Int}
    (h : u.constraintExpression index s = .error fault s') (hr : fault.IsRefusal) :
    u.GivesFault fault := by
  by_cases hindex : index < 1
  · rw [constraintExpression, if_pos hindex] at h
    cases h
    exact False.elim hr
  · rw [constraintExpression, if_neg hindex] at h
    cases hb : u.inner with
    | none =>
        rw [hb] at h
        exact absurd hr (not_isRefusal_of_algebraicConstraint h)
    | some block =>
        rw [hb] at h
        by_cases hinner : index ≤ block.bounds.length
        · dsimp only at h
          rw [if_pos hinner] at h
          exact givesFault_of_innerExpression hb h hr
        · dsimp only at h
          rw [if_neg hinner] at h
          exact absurd hr (not_isRefusal_of_algebraicConstraint h)

end UnifiedEvaluator

namespace Numeric

variable {s : Settings} {m : Method} {minimizer : Minimizer} {p : Problem} {b : VariableBounds}
  {f : Functions} {e e' : EvaluatorState} {st : SolveState} {o : Outcome} {c : ConstraintCache}

theorem givesFault_of_compiled {u : UnifiedEvaluator} {query : EvaluatorM Expr}
    (hquery : ∀ {e e'}, query e = .error fault e' → u.GivesFault fault)
    (h : compiled query e = .error fault e') (hr : fault.IsRefusal) : u.GivesFault fault := by
  rcases action_bind_eq_error.1 h with h | ⟨expression, e₁, -, h⟩
  · exact hquery h
  · cases hcompile : expression.compile with
    | ok g =>
        rw [hcompile] at h
        cases h
    | error fault' =>
        rw [hcompile] at h
        cases h
        rcases Expr.notCompilable_of_compile expression hcompile with rfl | ⟨kind, rfl⟩ <;>
          exact False.elim hr

/-- While functions are compiled, only the nonlinear evaluator refuses. -/
theorem givesFault_of_functions (h : functions p e = .error fault e') (hr : fault.IsRefusal) :
    p.evaluator.GivesFault fault := by
  unfold functions at h
  rcases action_bind_eq_error.1 h with h | ⟨_, e₁, -, h⟩
  · exact UnifiedEvaluator.givesFault_of_prepare (congrArg resultOf h)
  rcases action_bind_eq_error.1 h with h | ⟨names, e₂, -, h⟩
  · exact UnifiedEvaluator.givesFault_of_features (congrArg resultOf h)
  split at h
  · cases h
    exact False.elim hr
  rcases action_bind_eq_error.1 h with h | ⟨objective, e₃, -, h⟩
  · exact givesFault_of_compiled
      (fun hquery => UnifiedEvaluator.givesFault_of_objectiveExpression hquery hr) h hr
  rcases action_bind_eq_error.1 h with h | ⟨constraints, e₄, -, h⟩
  · obtain ⟨i, -, e₅, e₆, h⟩ := exists_of_action_mapM_error h
    exact givesFault_of_compiled
      (fun hquery => UnifiedEvaluator.givesFault_of_constraintExpression hquery hr) h hr
  · cases h

/-! ## Judging refuses nothing -/

theorem not_isRefused_outcomePoint (p : Problem) (o : Outcome) :
    ¬ IsRefused (outcomePoint p o) := by
  unfold outcomePoint
  rw [isRefused_bind_iff]
  rintro (h | ⟨x, -, h⟩)
  · exact not_isRefused_of_isUnusable (fun _ => Grid.isUnusable_of_ofNested) h
  · split at h <;> exact h

theorem not_isRefused_compiled {expression : Expr} {g : Compiled}
    (hg : expression.compile = .ok g) (x : List Float) : ¬ IsRefused (g x) :=
  not_isRefused_of_isUnusable fun _ h => (Expr.mayFault_of_compile expression hg h).isUnusable

theorem not_isRefused_valuesAt {gs : List Compiled}
    (hgs : ∀ g ∈ gs, ∃ expression : Expr, expression.compile = .ok g) (x : List Float)
    (c : ConstraintCache) : ¬ IsRefused (c.valuesAt gs x).1 := by
  unfold ConstraintCache.valuesAt
  split
  · split <;> exact id
  · cases hvalues : gs.mapM (· x) with
    | ok values => exact id
    | error fault =>
        obtain ⟨g, hg, hfault⟩ := exists_of_mapM_error hvalues
        obtain ⟨expression, hcompile⟩ := hgs g hg
        exact (Expr.mayFault_of_compile expression hcompile hfault).isUnusable.not_isRefusal

theorem not_isRefused_violation (values lower upper : Grid Float) :
    ¬ IsRefused (values.violation lower upper) := by
  have hgreatest : ∀ g : Grid Float, ¬ IsRefused g.greatest := by
    intro g
    unfold Grid.greatest
    split <;> exact id
  unfold Grid.violation
  split
  · exact id
  · simp only [isRefused_bind_iff]
    rintro (h | ⟨below, -, h | ⟨above, -, h | ⟨x, -, h | ⟨y, -, h⟩⟩⟩⟩)
    · exact Grid.not_isRefused_combine _ _ _ h
    · exact Grid.not_isRefused_combine _ _ _ h
    · exact hgreatest below h
    · exact hgreatest above h
    · exact h

theorem not_isRefused_judged (hf : functions p e = .ok f e') (m : Method) (b : VariableBounds)
    (o : Outcome) (c : ConstraintCache) (st : SolveState) :
    ¬ IsRefused (resultOf (judged m p b f o c st)) := by
  obtain ⟨e₁, e₂, hobjective, hconstraints, -⟩ := functions_eq_ok hf
  obtain ⟨objective, -, hobjective⟩ := compiled_eq_ok.1 hobjective
  have hgs : ∀ g ∈ f.constraints, ∃ expression : Expr, expression.compile = .ok g := by
    intro g hg
    obtain ⟨i, -, e₃, e₄, h⟩ := exists_source_of_action_mapM hconstraints hg
    obtain ⟨expression, -, hcompile⟩ := compiled_eq_ok.1 h
    exact ⟨expression, hcompile⟩
  unfold judged
  simp only [resultOf_ofExcept_bind, isRefused_bind_iff]
  rintro (h | ⟨x, -, h | ⟨y, -, h | ⟨outside, -, h | ⟨values, -, h | ⟨broken, -, h⟩⟩⟩⟩⟩)
  · exact not_isRefused_outcomePoint p o h
  · exact not_isRefused_compiled hobjective x.entries h
  · exact not_isRefused_violation _ _ _ h
  · exact not_isRefused_valuesAt hgs x.entries c h
  · exact not_isRefused_violation _ _ _ h
  · cases hmessage : o.message with
    | none =>
        rw [hmessage] at h
        exact h
    | some message =>
        rw [hmessage] at h
        exact h

theorem not_isRefusal_of_course (h : course s m minimizer p b f = .error fault) :
    ¬ fault.IsRefusal := by
  rcases course_eq_error h with rfl | rfl | h
  · exact id
  · exact id
  · exact h.not_isRefusal

theorem isRefusal_runFault_iff (m : Method) (fault : Fault) :
    (runFault m fault).IsRefusal ↔ fault.IsRefusal := by
  unfold runFault
  split
  · rename_i hnumerical
    refine iff_of_false id fun hr => ?_
    cases fault with
    | foreign kind message =>
        cases kind with
        | other name => cases hnumerical
        | _ => cases hr
    | unsupportedMethod _ | featureUnsupported _ _ | featureRequired _ _
      | finiteBoundsRequired _ => cases hnumerical
    | _ => exact hr
  · rfl

/-! ## Refusals of a solve -/

/-- The nonlinear evaluator refuses while functions are compiled, or the minimizer at its end. -/
def IsRefusedOutside (s : Settings) (m : Method) (minimizer : Minimizer) (p : Problem)
    (b : VariableBounds) (e : EvaluatorState) : Prop :=
  (∃ fault e', functions p e = .error fault e' ∧ p.evaluator.GivesFault fault ∧
    fault.IsRefusal) ∨
  ∃ f e' c, functions p e = .ok f e' ∧ course s m minimizer p b f = .ok c ∧ IsRefused c.result

theorem isRefused_run_iff (hf : functions p e = .ok f e') (s : Settings) (m : Method)
    (minimizer : Minimizer) (b : VariableBounds) (st : SolveState) : IsRefused (resultOf
      ((minimized s m minimizer p b f >>= fun (o, c) => judged m p b f o c) st)) ↔
        ∃ c, course s m minimizer p b f = .ok c ∧ IsRefused c.result := by
  obtain ⟨st', hrun⟩ := minimized_eq s m minimizer p b f st
  cases hcourse : course s m minimizer p b f with
  | error fault =>
      rw [hcourse] at hrun
      rw [action_bind_of_error hrun]
      exact iff_of_false (not_isRefusal_of_course hcourse) nofun
  | ok c =>
      rw [hcourse] at hrun
      simp only [Except.ok.injEq, exists_eq_left']
      cases hresult : c.result with
      | error fault =>
          simp only [hresult] at hrun
          rw [action_bind_of_error hrun]
          exact isRefusal_runFault_iff m fault
      | ok o =>
          simp only [hresult] at hrun
          rw [action_bind_of_ok hrun]
          exact iff_of_false (not_isRefused_judged hf m b o _ st') id

theorem isRefused_after_checks : IsRefused (resultOf
    ((queried (functions p) >>= fun f => minimized s m minimizer p b f >>= fun (o, c) =>
      judged m p b f o c) st)) ↔ IsRefusedOutside s m minimizer p b st.evaluator := by
  unfold IsRefusedOutside
  cases hf : functions p st.evaluator with
  | error fault e =>
      rw [action_bind_of_error (queried_of_error hf)]
      constructor
      · exact fun h => .inl ⟨fault, e, rfl, givesFault_of_functions hf h, h⟩
      · rintro (⟨_, _, h, -, hr⟩ | ⟨_, _, _, h, -⟩)
        · cases h
          exact hr
        · cases h
  | ok f e =>
      rw [action_bind_of_ok (queried_of_ok hf), isRefused_run_iff hf]
      constructor
      · rintro ⟨c, hcourse, h⟩
        exact .inr ⟨f, e, c, rfl, hcourse, h⟩
      · rintro (⟨_, _, h, -⟩ | ⟨_, _, c, h, hcourse, hr⟩)
        · cases h
        · cases h
          exact ⟨c, hcourse, hr⟩

/-- A check refuses a problem. -/
def IsRefusedByCheck (m : Method) (p : Problem) : Prop :=
  IsRefused (m.checkFeatures p) ∨ m.Takes p ∧ IsRefused (checkedBounds m p)

/-- A problem is refused by a check, or else by someone outside. -/
theorem isRefused_solve_iff : IsRefused (resultOf (solve s m minimizer p st)) ↔
    IsRefusedByCheck m p ∨ m.Takes p ∧ ∃ b, checkedBounds m p = .ok b ∧
      IsRefusedOutside s m minimizer p b st.evaluator := by
  unfold solve IsRefusedByCheck
  simp only [resultOf_ofExcept_bind, isRefused_bind_iff, ← isRefused_after_checks,
    ← Method.checkFeatures_eq_ok, Unique.exists_iff, and_or_left, or_assoc]

/-- Nothing is asked, and nothing changes, if a problem is refused by a check. -/
theorem solve_of_isRefusedByCheck (h : IsRefusedByCheck m p) :
    ∃ fault, solve s m minimizer p st = .error fault st := by
  unfold solve
  rcases h with h | ⟨htakes, h⟩
  · cases hfeatures : m.checkFeatures p with
    | ok u =>
        rw [hfeatures] at h
        exact False.elim h
    | error fault => exact ⟨fault, rfl⟩
  · rw [Method.checkFeatures_eq_ok.2 htakes]
    cases hbounds : checkedBounds m p with
    | ok u =>
        rw [hbounds] at h
        exact False.elim h
    | error fault => exact ⟨fault, rfl⟩

/-! ## Finite bounds -/

/-- Some variable has a finite bound of its own. -/
def HasFiniteBound (p : Problem) : Prop :=
  ∃ x ∈ p.variableLower.entries ++ p.variableUpper.entries, x.isFinite = true

/-- All bounds are finite, once those of binary variables are cut to zero and one. -/
def AllFinite (p : Problem) : Prop :=
  (∀ x ∈ lowerBounds p, x.isFinite = true) ∧ ∀ x ∈ upperBounds p, x.isFinite = true

/-- The variables, if there are any, are all binary and without bounds of their own. -/
def AllUnboundedBinary (p : Problem) : Prop :=
  (∀ c ∈ p.categories.entries, c = .binary) ∧
    (∀ x ∈ p.variableLower.entries, x.isFinite = false ∧ x < 0) ∧
    ∀ x ∈ p.variableUpper.entries, x.isFinite = false ∧ 1 < x

section

variable {category : Category} {x : Float}

theorem isFinite_greater_zero_iff (hx : x.isFinite = false) :
    (Measure.greater x 0).isFinite = true ↔ x < 0 := by
  cases hnan : x.isNaN with
  | true =>
      rw [Measure.greater_of_isNaN hnan, hx]
      exact iff_of_false nofun fun h => by rw [(Number.lt_iff.1 h).1] at hnan; cases hnan
  | false =>
      rw [Measure.greater_eq_later hnan rfl, Measure.later_eq]
      split
      · rename_i hlt
        exact iff_of_true rfl hlt
      · rename_i hlt
        rw [hx]
        exact iff_of_false nofun hlt

theorem isFinite_lesser_one_iff (hx : x.isFinite = false) :
    (Measure.lesser x 1).isFinite = true ↔ 1 < x := by
  cases hnan : x.isNaN with
  | true =>
      rw [Measure.lesser_of_isNaN hnan, hx]
      exact iff_of_false nofun fun h => by rw [(Number.lt_iff.1 h).2.1] at hnan; cases hnan
  | false =>
      rw [Measure.lesser_eq_earlier hnan rfl, Measure.earlier_eq]
      split
      · rename_i hlt
        exact iff_of_true rfl hlt
      · rename_i hlt
        rw [hx]
        exact iff_of_false nofun hlt

/-- Of bounds that are not finite, only those of binary variables are cut. -/
theorem isFinite_cut_iff {y : Float} {Q : Prop} (hx : x.isFinite = false)
    (hy : y.isFinite = true ↔ Q) :
    (if category = .binary then y else x).isFinite = true ↔ category = .binary ∧ Q := by
  split
  · rename_i hbinary
    rw [hy, and_iff_right hbinary]
  · rename_i hcategory
    rw [hx]
    exact iff_of_false nofun fun h => hcategory h.1

theorem isFinite_effectiveLower_iff (hx : x.isFinite = false) :
    (effectiveLower category x).isFinite = true ↔ category = .binary ∧ x < 0 :=
  isFinite_cut_iff hx (isFinite_greater_zero_iff hx)

theorem isFinite_effectiveUpper_iff (hx : x.isFinite = false) :
    (effectiveUpper category x).isFinite = true ↔ category = .binary ∧ 1 < x :=
  isFinite_cut_iff hx (isFinite_lesser_one_iff hx)

end

/-- Cutting makes all bounds finite if and only if it makes each of them finite. -/
theorem forall_cut_iff {cut : Category → Float → Float} {Q : Float → Prop}
    {categories : List Category} {xs : List Float} (hlength : categories.length = xs.length)
    (hcut : ∀ c, ∀ x ∈ xs, (cut c x).isFinite = true ↔ c = .binary ∧ Q x) :
    (∀ y ∈ List.zipWith cut categories xs, y.isFinite = true) ↔
      (∀ c ∈ categories, c = .binary) ∧ ∀ x ∈ xs, Q x := by
  induction categories generalizing xs with
  | nil =>
      cases List.eq_nil_of_length_eq_zero hlength.symm
      exact iff_of_true nofun ⟨nofun, nofun⟩
  | cons c categories ih =>
      obtain ⟨x, xs, rfl⟩ := List.exists_cons_of_length_eq_add_one hlength.symm
      rw [List.zipWith_cons_cons, List.forall_mem_cons, List.forall_mem_cons, List.forall_mem_cons,
        hcut c x List.mem_cons_self,
        ih (Nat.succ.inj hlength) fun c x hx => hcut c x (List.mem_cons_of_mem _ hx)]
      tauto

/-- The bounds are finite without any of them being so exactly if they all come from cutting. -/
theorem allFinite_iff (h : ¬ HasFiniteBound p) : AllFinite p ↔ AllUnboundedBinary p := by
  have hinfinite : ∀ x ∈ p.variableLower.entries ++ p.variableUpper.entries,
      x.isFinite = false := fun x hx => Bool.eq_false_iff.2 fun hfinite => h ⟨x, hx, hfinite⟩
  obtain ⟨hlower, hupper⟩ := List.forall_mem_append.1 hinfinite
  have hcutLower : (∀ y ∈ lowerBounds p, y.isFinite = true) ↔
      (∀ c ∈ p.categories.entries, c = .binary) ∧ ∀ x ∈ p.variableLower.entries, x < 0 :=
    forall_cut_iff (p.categories_size.trans p.variableLower_size.symm)
      fun c x hx => isFinite_effectiveLower_iff (hlower x hx)
  have hcutUpper : (∀ y ∈ upperBounds p, y.isFinite = true) ↔
      (∀ c ∈ p.categories.entries, c = .binary) ∧ ∀ x ∈ p.variableUpper.entries, 1 < x :=
    forall_cut_iff (p.categories_size.trans p.variableUpper_size.symm)
      fun c x hx => isFinite_effectiveUpper_iff (hupper x hx)
  unfold AllFinite AllUnboundedBinary
  rw [hcutLower, hcutUpper]
  constructor
  · rintro ⟨⟨hbinary, hlt⟩, -, hgt⟩
    exact ⟨hbinary, fun x hx => ⟨hlower x hx, hlt x hx⟩, fun x hx => ⟨hupper x hx, hgt x hx⟩⟩
  · rintro ⟨hbinary, hlt, hgt⟩
    exact ⟨⟨hbinary, fun x hx => (hlt x hx).2⟩, hbinary, fun x hx => (hgt x hx).2⟩

theorem not_hasFiniteBound_of_allUnboundedBinary (h : AllUnboundedBinary p) :
    ¬ HasFiniteBound p := by
  obtain ⟨-, hlower, hupper⟩ := h
  rintro ⟨x, hx, hfinite⟩
  rcases List.mem_append.1 hx with hx | hx
  · exact Bool.noConfusion (hfinite.symm.trans (hlower x hx).1)
  · exact Bool.noConfusion (hfinite.symm.trans (hupper x hx).1)

/-! ## The two checks of differential evolution -/

theorem uses_bounds_iff {flags : List Bool} : p.uses flags .bounds = true ↔ HasFiniteBound p := by
  simp only [Problem.uses, Bool.or_eq_true, List.any_eq_true, HasFiniteBound, List.mem_append,
    or_and_right, exists_or]

/-- Of all features, it is only a finite bound that differential evolution cannot do without. -/
theorem differentialEvolution_takes_iff : Method.differentialEvolution.Takes p ↔
    (∃ flags, p.equalityFlags = .ok flags) ∧ HasFiniteBound p := by
  have hfits : ∀ flags : List Bool,
      (∀ f, Method.differentialEvolution.Fits f (p.uses flags f)) ↔ HasFiniteBound p := by
    intro flags
    have hbound : p.uses flags .bounds = true ↔ HasFiniteBound p := uses_bounds_iff
    rw [← hbound]
    constructor
    · intro h
      have hbounds := h .bounds
      cases hused : p.uses flags .bounds with
      | true => rfl
      | false =>
          rw [hused] at hbounds
          exact absurd hbounds (by decide)
    · intro hused f
      cases f with
      | bounds => rw [hused]; decide
      | equalities => cases p.uses flags .equalities <;> decide
      | inequalities => cases p.uses flags .inequalities <;> decide
      | discreteVariables => cases p.uses flags .discreteVariables <;> decide
  simp only [Method.Takes, hfits, exists_and_right]

/-- Binary variables that cannot be selected are no reason for a refusal. -/
theorem not_isRefused_checkMask (mask shape : List Nat) : ¬ IsRefused (checkMask mask shape) := by
  have hfault : ∀ axis mask shape, ∀ fault ∈ maskFault? axis mask shape, ¬ fault.IsRefusal := by
    intro axis mask
    induction mask generalizing axis with
    | nil => exact fun shape fault h => by cases h
    | cons m mask ih =>
        intro shape fault h
        cases shape with
        | nil => cases h
        | cons n shape =>
            rw [maskFault?] at h
            split at h
            · exact ih _ _ fault h
            · cases h
              exact id
  unfold checkMask
  split
  · exact id
  · split
    · rename_i fault h
      exact hfault 0 mask shape fault h
    · exact id

theorem isRefused_checkedBounds_iff :
    IsRefused (checkedBounds .differentialEvolution p) ↔ MasksFit p ∧ ¬ AllFinite p := by
  unfold checkedBounds
  rw [isRefused_bind_iff]
  constructor
  · rintro (h | ⟨b, hb, h⟩)
    · unfold variableBounds at h
      simp only [isRefused_bind_iff] at h
      rcases h with h | ⟨_, -, h | ⟨_, -, h⟩⟩
      · exact absurd h (not_isRefused_checkMask _ _)
      · exact absurd h (not_isRefused_checkMask _ _)
      · exact False.elim h
    · obtain ⟨hmasks, hbounds⟩ := variableBounds_eq_ok hb
      refine ⟨hmasks, fun hfinite => ?_⟩
      rw [if_neg] at h
      · exact h
      · rintro ⟨-, hnot⟩
        refine hnot ?_
        simpa only [List.all_eq_true, hbounds.lower_entries, hbounds.upper_entries, AllFinite]
          using hfinite
  · rintro ⟨hmasks, hinfinite⟩
    obtain ⟨b, hb⟩ := exists_variableBounds hmasks
    have hbounds := (variableBounds_eq_ok hb).2
    refine .inr ⟨b, hb, ?_⟩
    rw [if_pos]
    · trivial
    · refine ⟨rfl, fun hfinite => hinfinite ?_⟩
      simpa only [List.all_eq_true, hbounds.lower_entries, hbounds.upper_entries, AllFinite]
        using hfinite

/-- The bounds, once those of binary variables are cut, are found not to be all finite. -/
def LacksBounds (p : Problem) : Prop := ¬ AllFinite p ∧ (MasksFit p ∨ ¬ HasFiniteBound p)

/-- The first check adds to the second one only the problems of binary variables without bounds. -/
theorem isRefusedByCheck_iff : IsRefusedByCheck .differentialEvolution p ↔
    (∃ flags, p.equalityFlags = .ok flags) ∧ (LacksBounds p ∨ AllUnboundedBinary p) := by
  unfold IsRefusedByCheck LacksBounds
  rw [Method.isRefused_checkFeatures_iff, differentialEvolution_takes_iff,
    isRefused_checkedBounds_iff]
  constructor
  · rintro (⟨hflags, hlacks⟩ | ⟨⟨hflags, -⟩, hmasks, hinfinite⟩)
    · have hbound : ¬ HasFiniteBound p := fun hbound => hlacks ⟨hflags, hbound⟩
      by_cases hfinite : AllFinite p
      · exact ⟨hflags, .inr ((allFinite_iff hbound).1 hfinite)⟩
      · exact ⟨hflags, .inl ⟨hfinite, .inr hbound⟩⟩
    · exact ⟨hflags, .inl ⟨hinfinite, .inl hmasks⟩⟩
  · rintro ⟨hflags, h⟩
    by_cases hbound : HasFiniteBound p
    · refine .inr ⟨⟨hflags, hbound⟩, ?_⟩
      rcases h with ⟨hinfinite, hmasks | hnone⟩ | hunbounded
      · exact ⟨hmasks, hinfinite⟩
      · exact absurd hbound hnone
      · exact absurd hbound (not_hasFiniteBound_of_allUnboundedBinary hunbounded)
    · exact .inl ⟨hflags, fun h => hbound h.2⟩

/-- If all arrays of a problem are vectors, then the limits of its constraints can be compared. -/
theorem exists_equalityFlags_of_vectors (hp : p.HasLengths p.variableCount p.constraintCount) :
    ∃ flags, p.equalityFlags = .ok flags := by
  obtain ⟨flags, hflags, -⟩ := Grid.combine_of_shape
    (fun upper lower => Measure.areClose lower upper)
    (hp.constraintUpper.trans hp.constraintLower.symm)
  unfold Problem.equalityFlags
  rw [hflags]
  exact ⟨_, rfl⟩

/--
Differential evolution refuses a problem exactly if the limits of its constraints can be compared
and one of three things is the case: a bound is not finite even after the bounds of binary variables
are cut to zero and one, where they can be; or all variables are binary and without bounds of their
own, though cutting them would do; or the nonlinear evaluator or the minimizer refuses. In the first
two cases neither of them is asked. The limits of vectors can be compared, and their bounds cut.
-/
theorem isRefused_differentialEvolution_iff :
    (IsRefused (resultOf (solve s .differentialEvolution minimizer p st)) ↔
      (∃ flags, p.equalityFlags = .ok flags) ∧ (LacksBounds p ∨ AllUnboundedBinary p ∨
        ∃ b, variableBounds p = .ok b ∧
          IsRefusedOutside s .differentialEvolution minimizer p b st.evaluator)) ∧
    ((∃ flags, p.equalityFlags = .ok flags) → LacksBounds p ∨ AllUnboundedBinary p →
      ∃ fault, solve s .differentialEvolution minimizer p st = .error fault st) ∧
    (p.HasLengths p.variableCount p.constraintCount →
      MasksFit p ∧ ∃ flags, p.equalityFlags = .ok flags) := by
  refine ⟨?_, fun hflags h => solve_of_isRefusedByCheck (isRefusedByCheck_iff.2 ⟨hflags, h⟩),
    fun hp => ⟨masksFit_of_vectors hp, exists_equalityFlags_of_vectors hp⟩⟩
  rw [isRefused_solve_iff, isRefusedByCheck_iff, differentialEvolution_takes_iff]
  constructor
  · rintro (⟨hflags, h⟩ | ⟨⟨hflags, -⟩, b, hb, h⟩)
    · exact ⟨hflags, h.imp_right .inl⟩
    · exact ⟨hflags, .inr (.inr ⟨b, (checkedBounds_eq_ok.1 hb).1, h⟩)⟩
  · rintro ⟨hflags, h⟩
    by_cases hcheck : LacksBounds p ∨ AllUnboundedBinary p
    · exact .inl ⟨hflags, hcheck⟩
    · obtain ⟨hlacks, hbounded⟩ := not_or.1 hcheck
      obtain ⟨b, hb, h⟩ := (h.resolve_left hlacks).resolve_left hbounded
      have hfinite : AllFinite p := of_not_not fun hinfinite =>
        hlacks ⟨hinfinite, .inl (variableBounds_eq_ok hb).1⟩
      have hbound : HasFiniteBound p := of_not_not fun hnone =>
        hbounded ((allFinite_iff hnone).1 hfinite)
      exact .inr ⟨⟨hflags, hbound⟩, b, checkedBounds_eq_ok.2 ⟨hb, fun _ => hfinite⟩, h⟩

/-- A model of one binary variable. -/
def oneBinary : Model :=
  Model.empty.performAll [.addVariable, .addConstraint (.function (.single ⟨1⟩)) .zeroOne]

/-- It has no bound of its own, so it is refused before anything is asked. -/
theorem isRefused_differentialEvolution_oneBinary :
    ∃ p, oneBinary.problem = .ok p ∧ (∃ flags, p.equalityFlags = .ok flags) ∧
      AllUnboundedBinary p ∧ ∃ fault, solve .default .differentialEvolution
        (fun _ => .finish (success [1])) p ⟨.initial, [], none⟩ =
          .error fault ⟨.initial, [], none⟩ := by
  obtain ⟨p, hp, hflags⟩ : ∃ p, oneBinary.problem = .ok p ∧ p.equalityFlags = .ok [] :=
    ⟨_, rfl, rfl⟩
  have hunbounded : AllUnboundedBinary p := by
    cases hp
    exact ⟨by decide, by decide, by decide⟩
  exact ⟨p, hp, ⟨[], hflags⟩, hunbounded,
    isRefused_differentialEvolution_iff.2.1 ⟨[], hflags⟩ (.inr hunbounded)⟩

/-- One binary variable ranges over a finite interval, and is refused for lack of bounds. -/
theorem isRefused_oneBinary :
    ∃ p, oneBinary.problem = .ok p ∧ AllFinite p ∧ ¬ (IsRefused (resultOf
      (solve .default .differentialEvolution (fun _ => .finish (success [1])) p
        ⟨.initial, [], none⟩)) ↔ ¬ AllFinite p) := by
  have hfinite : ∀ p, oneBinary.problem = .ok p → AllFinite p := by
    rintro p ⟨⟩
    exact ⟨by decide, by decide⟩
  refine ⟨_, rfl, hfinite _ rfl, fun h => h.1 ?_ (hfinite _ rfl)⟩
  trivial

end Numeric

end Extremum
