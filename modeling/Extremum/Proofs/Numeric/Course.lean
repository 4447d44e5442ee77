import Extremum.Proofs.Numeric.Exchange

/-!
# What a solve depends on

The functions of a problem follow from the answers of its evaluator, whatever it was asked before.
The result of a solve, and the exchange with the minimizer, follow from these functions and from the
data of the problem.
-/

namespace Extremum.Numeric

variable {s : Settings} {m : Method} {minimizer : Minimizer} {p : Problem} {st : SolveState}

/-- The bounds and the functions of a problem that a method takes. -/
def preparedFunctions (m : Method) (p : Problem) : Except Fault (VariableBounds × Functions) := do
  m.checkFeatures p
  let b ← checkedBounds m p
  return (b, ← answeredFunctions p)

/-- A solve fails before its run, or it goes on with the bounds and functions of the problem. -/
theorem solve_cases (s : Settings) (minimizer : Minimizer)
    (hst : p.evaluator.Queried st.evaluator) :
    (∃ fault e, preparedFunctions m p = .error fault ∧
      solve s m minimizer p st = .error fault { st with evaluator := e }) ∨
    ∃ b f e, preparedFunctions m p = .ok (b, f) ∧ solve s m minimizer p st =
      (minimized s m minimizer p b f >>= fun (o, c) => judged m p b f o c)
        { st with evaluator := e } := by
  -- the checks come first, and until they pass the evaluator is not asked for anything
  cases hfeatures : m.checkFeatures p with
  | error fault =>
      refine .inl ⟨fault, st.evaluator, ?_, ?_⟩
      · rw [preparedFunctions, hfeatures]; rfl
      · rw [solve, hfeatures]; rfl
  | ok u =>
      cases hbounds : checkedBounds m p with
      | error fault =>
          refine .inl ⟨fault, st.evaluator, ?_, ?_⟩
          · rw [preparedFunctions, hfeatures, hbounds]; rfl
          · rw [solve, hfeatures, hbounds]; rfl
      | ok b =>
          have hprepared : preparedFunctions m p =
              resultOf (functions p st.evaluator) >>= fun f => pure (b, f) := by
            rw [preparedFunctions, hfeatures, hbounds, resultOf_functions hst]
            rfl
          rw [solve_of_checks hfeatures hbounds, hprepared]
          cases hfunctions : functions p st.evaluator with
          | error fault e =>
              exact .inl ⟨fault, e, rfl, action_bind_of_error (queried_of_error hfunctions)⟩
          | ok f e =>
              exact .inr ⟨b, f, e, rfl, action_bind_of_ok (queried_of_ok hfunctions)⟩

/-- The result of a solve does not depend on what the evaluator was asked before. -/
theorem resultOf_solve_eq (hst : p.evaluator.Queried st.evaluator) :
    resultOf (solve s m minimizer p st) = preparedFunctions m p >>= fun (b, f) =>
      course s m minimizer p b f >>= fun c => c.ended m p b f := by
  rcases solve_cases s minimizer hst with ⟨fault, e, hf, hsolve⟩ | ⟨b, f, e, hf, hsolve⟩
  · rw [hf, hsolve]
    rfl
  · rw [hf, hsolve]
    exact resultOf_run s m minimizer p b f _

/-- The exchange with the minimizer, if it comes to one. -/
theorem exchangeAfter_solve_eq (hst : p.evaluator.Queried st.evaluator) :
    exchangeAfter (solve s m minimizer p st) =
      match preparedFunctions m p with
      | .ok (b, f) =>
        if p.variableCount = 0 then st.exchange
        else match request s m p b with
          | .ok r => some (exchange minimizer f r)
          | .error _ => st.exchange
      | .error _ => st.exchange := by
  rcases solve_cases s minimizer hst with ⟨fault, e, hf, hsolve⟩ | ⟨b, f, e, hf, hsolve⟩
  · rw [hf, hsolve]
    rfl
  · rw [hf, hsolve]
    exact exchangeAfter_run s m minimizer p b f _

end Extremum.Numeric
