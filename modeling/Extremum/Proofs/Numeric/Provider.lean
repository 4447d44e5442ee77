import Extremum.Numeric.Provider
import Extremum.Proofs.Numeric.Solve
import Extremum.Proofs.Optimizer.Solve

/-!
# Results of the numerical backend

The numerical backend leaves the optimizer alone. The objective value of what it returns is computed
anew at the returned point, from the expression that the evaluator of the problem gives; the sign
that turns a maximum into a minimum is only for minimizers.
-/

namespace Extremum.Numeric

variable {σ : Type} {s : Settings} {m : Method} {minimizer : Minimizer} {p : Problem}
  {st st' : SolveState} {r : SolverResult} {keep : Exchange → σ → σ} {w w' : World σ}

/-- The objective value of a result is that of the algebraic objective at its point. -/
theorem evaluate_of_solve {expression : Expr}
    (hexpression : p.evaluator.objective = some expression)
    (h : solve s m minimizer p st = .ok r st') :
    expression.evaluate r.primal.entries = .ok r.objective := by
  obtain ⟨b, f, e, outcome, cache, st₁, -, hf, -, hjudged⟩ := solve_eq_ok h
  obtain ⟨e₁, e₂, hobjective, -⟩ := functions_eq_ok hf
  obtain ⟨given, hgiven, hcompile⟩ := compiled_eq_ok.1 hobjective
  rw [UnifiedEvaluator.objectiveExpression, hexpression] at hgiven
  cases hgiven
  obtain ⟨-, hvalue, -⟩ := judged_eq_ok hjudged
  exact bind_eq_ok.2 ⟨f.objective, hcompile, hvalue⟩

theorem embedded_eq_ok {action : SolveM SolverResult} (h : embedded keep action w = .ok r w') :
    ∃ st, action ⟨w.evaluator, [], none⟩ = .ok r st := by
  unfold embedded at h
  cases haction : action ⟨w.evaluator, [], none⟩ with
  | error fault st =>
      rw [haction] at h
      cases h
  | ok r' st =>
      rw [haction] at h
      cases h
      exact ⟨st, rfl⟩

theorem embedded_optimizer (action : SolveM SolverResult) (w : World σ) :
    (World.after (embedded keep action w)).optimizer = w.optimizer := by
  unfold embedded
  cases action ⟨w.evaluator, [], none⟩ <;> rfl

theorem create_eq_ok {solver : Solver σ} (h : (provider minimizer keep).create s = .ok solver) :
    ∃ m, solver = fun p => embedded keep (solve s m minimizer p) := by
  obtain ⟨m, -, h⟩ := bind_eq_ok.1 h
  exact ⟨m, (pure_eq_ok.1 h).symm⟩

theorem provider_quiet (minimizer : Minimizer) (keep : Exchange → σ → σ) :
    (provider minimizer keep).Quiet := by
  intro s solver hsolver p w
  obtain ⟨m, rfl⟩ := create_eq_ok hsolver
  exact embedded_optimizer _ w

/-- What the backend returns in a solve has the value of the algebraic objective at its point. -/
theorem evaluate_of_answer {expression : Expr}
    (hp : w.optimizer.model.problem = .ok p) (hexpression : p.evaluator.objective = some expression)
    (h : Optimizer.answer? (provider minimizer keep) w = some r) :
    expression.evaluate r.primal.entries = .ok r.objective := by
  unfold Optimizer.answer? at h
  rcases Optimizer.prepared_cases (provider minimizer keep) w with
    ⟨fault, w₁, hprepared, -⟩ | ⟨p', solver, w₁, hprepared, -, hp', hsolver⟩
  · rw [hprepared] at h
    cases h
  · rw [hprepared] at h
    cases hp.symm.trans hp'
    obtain ⟨m, rfl⟩ := create_eq_ok hsolver
    cases hresult : embedded keep (solve w.optimizer.settings m minimizer p) w₁ with
    | error fault w₂ => simp [hresult] at h
    | ok r' w₂ =>
        simp only [hresult, Option.some.injEq] at h
        obtain ⟨st, hsolve⟩ := embedded_eq_ok hresult
        rw [← h]
        exact evaluate_of_solve hexpression hsolve

end Extremum.Numeric
