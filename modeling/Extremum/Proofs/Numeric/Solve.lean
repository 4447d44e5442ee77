import Extremum.Numeric.Solve
import Extremum.Proofs.Problem.Checking

/-!
# Steps of a successful solve

A solve succeeds exactly if all its steps do: the functions are compiled, the minimizer is run, and
what it returns is judged. The result holds the returned point with the objective and the status
computed for it.
-/

namespace Extremum.Numeric

theorem queried_of_ok {α : Type} {query : EvaluatorM α} {a : α} {e : EvaluatorState}
    {st : SolveState} (h : query st.evaluator = .ok a e) :
    queried query st = .ok a { st with evaluator := e } := by
  rw [queried, h]

theorem queried_of_error {α : Type} {query : EvaluatorM α} {fault : Fault} {e : EvaluatorState}
    {st : SolveState} (h : query st.evaluator = .error fault e) :
    queried query st = .error fault { st with evaluator := e } := by
  rw [queried, h]

theorem queried_eq_ok {α : Type} {query : EvaluatorM α} {a : α} {s s' : SolveState} :
    queried query s = .ok a s' ↔
      ∃ e, query s.evaluator = .ok a e ∧ s' = { s with evaluator := e } := by
  unfold queried
  cases query s.evaluator with
  | error fault e => simp
  | ok b e =>
      simp only [EStateM.Result.ok.injEq]
      constructor
      · rintro ⟨rfl, rfl⟩
        exact ⟨e, ⟨rfl, rfl⟩, rfl⟩
      · rintro ⟨_, ⟨rfl, rfl⟩, rfl⟩
        exact ⟨rfl, rfl⟩

theorem compiled_eq_ok {query : EvaluatorM Expr} {g : Compiled} {e e' : EvaluatorState} :
    compiled query e = .ok g e' ↔ ∃ expression, query e = .ok expression e' ∧
      expression.compile = .ok g := by
  unfold compiled
  rw [action_bind_eq_ok]
  constructor
  · rintro ⟨expression, e₁, hquery, h⟩
    obtain ⟨hcompile, rfl⟩ := ofExcept_eq_ok.1 h
    exact ⟨expression, hquery, hcompile⟩
  · rintro ⟨expression, hquery, hcompile⟩
    exact ⟨expression, e', hquery, ofExcept_eq_ok.2 ⟨hcompile, rfl⟩⟩

variable {s : Settings} {m : Method} {minimizer : Minimizer} {p : Problem} {b : VariableBounds}
  {f : Functions} {e e' : EvaluatorState} {st st' : SolveState} {outcome : Outcome}
  {cache : ConstraintCache} {r : SolverResult}

/-! ## Bounds -/

/-- The bounds of a problem have the shapes that it gives them. -/
structure IsBounds (p : Problem) (b : VariableBounds) : Prop where
  lower_shape : b.lower.shape = p.variableLower.shape
  upper_shape : b.upper.shape = p.variableUpper.shape
  lower_entries : b.lower.entries = lowerBounds p
  upper_entries : b.upper.entries = upperBounds p

/-- The binary variables can be selected among the bounds. -/
def MasksFit (p : Problem) : Prop :=
  checkMask p.categories.shape p.variableLower.shape = .ok () ∧
    checkMask p.categories.shape p.variableUpper.shape = .ok ()

theorem variableBounds_eq_ok (h : variableBounds p = .ok b) : MasksFit p ∧ IsBounds p b := by
  obtain ⟨_, hlower, h⟩ := bind_eq_ok.1 h
  obtain ⟨_, hupper, h⟩ := bind_eq_ok.1 h
  cases pure_eq_ok.1 h
  exact ⟨⟨hlower, hupper⟩, rfl, rfl, rfl, rfl⟩

/-- Vectors select among vectors. -/
theorem masksFit_of_vectors {n k : Nat} (hp : p.HasLengths n k) : MasksFit p := by
  have hmask : checkMask [n] [n] = .ok () := by simp [checkMask, maskFault?]
  unfold MasksFit
  rw [hp.categories, hp.variableLower, hp.variableUpper]
  exact ⟨hmask, hmask⟩

theorem exists_variableBounds (h : MasksFit p) : ∃ b, variableBounds p = .ok b := by
  unfold variableBounds
  rw [h.1, h.2]
  exact ⟨_, rfl⟩

theorem checkedBounds_eq_ok : checkedBounds m p = .ok b ↔ variableBounds p = .ok b ∧
    (m = .differentialEvolution →
      (∀ x ∈ lowerBounds p, x.isFinite = true) ∧ ∀ x ∈ upperBounds p, x.isFinite = true) := by
  unfold checkedBounds
  rw [bind_eq_ok]
  constructor
  · rintro ⟨b', hb, h⟩
    have hbounds := (variableBounds_eq_ok hb).2
    split at h
    · cases h
    · rename_i hfinite
      cases pure_eq_ok.1 h
      refine ⟨hb, fun hm => ?_⟩
      simpa only [hm, true_and, not_not, List.all_eq_true, hbounds.lower_entries,
        hbounds.upper_entries] using hfinite
  · rintro ⟨hb, hfinite⟩
    have hbounds := (variableBounds_eq_ok hb).2
    refine ⟨b, hb, ?_⟩
    rw [if_neg]
    · rfl
    · rintro ⟨hm, hnot⟩
      refine hnot ?_
      simpa only [List.all_eq_true, hbounds.lower_entries, hbounds.upper_entries] using hfinite hm

/-! ## Functions and results -/

theorem functions_eq_ok (h : functions p e = .ok f e') : ∃ e₁ e₂,
    compiled p.evaluator.objectiveExpression e₁ = .ok f.objective e₂ ∧
      (List.range p.constraintCount).mapM (fun i =>
        compiled (p.evaluator.constraintExpression (i + 1 : Nat))) e₂ = .ok f.constraints e' ∧
      f.sign = p.direction.sign ∧ f.rows = normalRows p := by
  unfold functions at h
  obtain ⟨_, e₁, -, h⟩ := action_bind_eq_ok.1 h
  obtain ⟨features, e₂, -, h⟩ := action_bind_eq_ok.1 h
  split at h
  · cases h
  obtain ⟨objective, e₃, hobjective, h⟩ := action_bind_eq_ok.1 h
  obtain ⟨constraints, e₄, hconstraints, h⟩ := action_bind_eq_ok.1 h
  cases h
  exact ⟨e₂, e₃, hobjective, hconstraints, rfl, rfl⟩

theorem shape_of_outcomePoint {x : Grid Float} (h : outcomePoint p outcome = .ok x) :
    x.shape = [p.variableCount] := by
  unfold outcomePoint at h
  obtain ⟨x', -, h⟩ := bind_eq_ok.1 h
  split at h
  · rename_i hvector
    cases h
    exact eq_of_beq hvector
  · cases h

theorem judged_eq_ok (h : judged m p b f outcome cache st = .ok r st') :
    outcomePoint p outcome = .ok r.primal ∧ f.objective r.primal.entries = .ok r.objective ∧
      ∃ outside values broken, r.primal.violation b.lower b.upper = .ok outside ∧
        (cache.valuesAt f.constraints r.primal.entries).1 = .ok values ∧
        (Grid.ofList values).violation p.constraintLower p.constraintUpper = .ok broken ∧
        r.status =
          (outcome.status (f.sign * r.objective) (Measure.later outside broken)).symbol := by
  unfold judged at h
  obtain ⟨x, st₁, hx, h⟩ := action_bind_eq_ok.1 h
  obtain ⟨objective, st₂, hobjective, h⟩ := action_bind_eq_ok.1 h
  obtain ⟨outside, st₃, houtside, h⟩ := action_bind_eq_ok.1 h
  obtain ⟨values, st₄, hvalues, h⟩ := action_bind_eq_ok.1 h
  obtain ⟨broken, st₅, hbroken, h⟩ := action_bind_eq_ok.1 h
  cases hmessage : outcome.message with
  | none =>
      rw [hmessage] at h
      cases h
  | some message =>
      rw [hmessage] at h
      obtain ⟨_, st₆, -, h⟩ := action_bind_eq_ok.1 h
      cases h
      exact ⟨(ofExcept_eq_ok.1 hx).1, (ofExcept_eq_ok.1 hobjective).1, outside, values, broken,
        (ofExcept_eq_ok.1 houtside).1, (ofExcept_eq_ok.1 hvalues).1, (ofExcept_eq_ok.1 hbroken).1,
        rfl⟩

theorem solve_eq_ok (h : solve s m minimizer p st = .ok r st') : ∃ b f e outcome cache st₁,
    checkedBounds m p = .ok b ∧ functions p st.evaluator = .ok f e ∧
      minimized s m minimizer p b f { st with evaluator := e } = .ok (outcome, cache) st₁ ∧
      judged m p b f outcome cache st₁ = .ok r st' := by
  unfold solve at h
  obtain ⟨_, st₁, hfeatures, h⟩ := action_bind_eq_ok.1 h
  obtain ⟨b, st₂, hbounds, h⟩ := action_bind_eq_ok.1 h
  cases (ofExcept_eq_ok.1 hfeatures).2
  cases (ofExcept_eq_ok.1 hbounds).2
  obtain ⟨f, st₃, hfunctions, h⟩ := action_bind_eq_ok.1 h
  obtain ⟨e, hf, rfl⟩ := queried_eq_ok.1 hfunctions
  obtain ⟨⟨outcome, cache⟩, st₄, hminimized, h⟩ := action_bind_eq_ok.1 h
  exact ⟨b, f, e, outcome, cache, st₄, (ofExcept_eq_ok.1 hbounds).1, hf, hminimized, h⟩

end Extremum.Numeric
