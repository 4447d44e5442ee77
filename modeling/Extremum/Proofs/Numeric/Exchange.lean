import Extremum.Proofs.Numeric.Features
import Extremum.Proofs.Numeric.Report

/-!
# Exchanges with minimizers

A solve runs a minimizer at most once, when all checks have passed, the functions are compiled, and
a request can be made. What is on record afterwards is this request and the dialogue it led to.
-/

namespace Extremum.Numeric

variable {s : Settings} {m : Method} {minimizer : Minimizer} {p : Problem} {b : VariableBounds}
  {f : Functions} {st : SolveState} {r : Request} {x : Exchange}

/-- The exchange with a minimizer that is on record after a computation. -/
def exchangeAfter {α : Type} : EStateM.Result Fault SolveState α → Option Exchange
  | .ok _ st => st.exchange
  | .error _ st => st.exchange

theorem exchangeAfter_ofExcept_bind {α β : Type} {x : Except Fault α} {k : α → SolveM β}
    (h : ∀ a, exchangeAfter (k a st) = st.exchange) :
    exchangeAfter ((MonadExcept.ofExcept x >>= k : SolveM β) st) = st.exchange := by
  cases x with
  | error fault => rfl
  | ok a => exact h a

theorem exchangeAfter_judged (o : Outcome) (c : ConstraintCache) :
    exchangeAfter (judged m p b f o c st) = st.exchange := by
  unfold judged
  refine exchangeAfter_ofExcept_bind fun x => exchangeAfter_ofExcept_bind fun objective =>
    exchangeAfter_ofExcept_bind fun outside => exchangeAfter_ofExcept_bind fun values =>
      exchangeAfter_ofExcept_bind fun broken => ?_
  cases o.message <;> rfl

/-- The exchange that a request leads to. -/
def exchange (minimizer : Minimizer) (f : Functions) (r : Request) : Exchange :=
  ⟨r, ((minimizer r).run f .empty).transcript⟩

/-- A minimizer is run unless there is nothing to minimize over, or no request can be made. -/
theorem exchangeAfter_run (s : Settings) (m : Method) (minimizer : Minimizer) (p : Problem)
    (b : VariableBounds) (f : Functions) (st : SolveState) :
    exchangeAfter ((minimized s m minimizer p b f >>= fun (o, c) => judged m p b f o c) st) =
      if p.variableCount = 0 then st.exchange
      else match request s m p b with
        | .ok r => some (exchange minimizer f r)
        | .error _ => st.exchange := by
  unfold minimized
  split
  · exact exchangeAfter_judged _ _
  · cases request s m p b with
    | error fault => rfl
    | ok r =>
        have hbind : ∀ (k : Request → SolveM SolverResult) (st : SolveState),
            ((MonadExcept.ofExcept (.ok r) : SolveM Request) >>= k) st = k r st :=
          fun k st => action_bind_of_ok (ofExcept_eq_ok.2 ⟨rfl, rfl⟩)
        cases hresult : ((minimizer r).run f .empty).result with
        | error fault =>
            simp only [bind_assoc, hbind, hresult]
            rfl
        | ok o =>
            simp only [bind_assoc, hbind, hresult]
            exact exchangeAfter_judged _ _

/-- What has gone before if a solve runs a minimizer. -/
theorem exchange_of_solve (hst : st.exchange = none)
    (h : exchangeAfter (solve s m minimizer p st) = some x) : ∃ b f e, m.Takes p ∧
      checkedBounds m p = .ok b ∧ functions p st.evaluator = .ok f e ∧
        request s m p b = .ok x.request ∧ x = exchange minimizer f x.request := by
  cases hfeatures : m.checkFeatures p with
  | error fault =>
      unfold solve at h
      rw [hfeatures] at h
      cases hst.symm.trans h
  | ok u =>
      cases hbounds : checkedBounds m p with
      | error fault =>
          unfold solve at h
          rw [hfeatures, hbounds] at h
          cases hst.symm.trans h
      | ok b =>
          rw [solve_of_checks hfeatures hbounds] at h
          cases hf : functions p st.evaluator with
          | error fault e =>
              rw [action_bind_of_error (queried_of_error hf)] at h
              cases hst.symm.trans h
          | ok f e =>
              rw [action_bind_of_ok (queried_of_ok hf), exchangeAfter_run] at h
              refine ⟨b, f, e, Method.checkFeatures_eq_ok.1 hfeatures, rfl, rfl, ?_⟩
              split at h
              · cases hst.symm.trans h
              · cases hrequest : request s m p b with
                | error fault =>
                    rw [hrequest] at h
                    cases hst.symm.trans h
                | ok r =>
                    rw [hrequest] at h
                    cases h
                    exact ⟨rfl, rfl⟩

/-- What a request is made of. -/
theorem request_eq_ok (h : request s m p b = .ok r) : givenBounds b = .ok r.bounds ∧
    startPoint p b = .ok r.start ∧ constraintForm m p = .ok r.constraints ∧
      r.arguments = arguments s m p := by
  obtain ⟨bounds, hbounds, h⟩ := bind_eq_ok.1 h
  obtain ⟨start, hstart, h⟩ := bind_eq_ok.1 h
  obtain ⟨constraints, hconstraints, h⟩ := bind_eq_ok.1 h
  cases pure_eq_ok.1 h
  refine ⟨hbounds, hstart, ?_, rfl⟩
  cases hform : constraintForm m p with
  | error fault =>
      rw [hform] at hconstraints
      cases hconstraints
  | ok form =>
      rw [hform] at hconstraints
      cases hconstraints
      rfl

theorem arguments_of_solve (hst : st.exchange = none)
    (h : exchangeAfter (solve s m minimizer p st) = some x) :
    x.request.arguments = arguments s m p := by
  obtain ⟨b, f, e, -, -, -, hrequest, -⟩ := exchange_of_solve hst h
  exact (request_eq_ok hrequest).2.2.2

end Extremum.Numeric
