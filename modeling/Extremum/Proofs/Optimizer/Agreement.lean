import Extremum.Proofs.Numeric.Provider
import Extremum.Proofs.Numeric.Verdict
import Extremum.Proofs.Optimizer.Session
import Extremum.Proofs.Problem.Values

/-!
# Queries and solves agree

If all calls of a session succeed, then a feasible point belongs to the model that was solved last,
which is the model as it is but for start values. Queries compute values from the model and from the
point, the solver from the expressions of its problem; both arrive at the same values.
-/

namespace Extremum

variable {σ : Type}

/-! ## The solution of one optimizer -/

theorem Snapshot.readEntry_of_primalOf {ps : Positions} {x : List Float}
    {primal : List (VariableId × Float)} {i : Nat} (h : primalOf ps x = .ok primal)
    (hi : i < ps.size) : ∃ y, readEntry x (i : Int) = .ok y ∧ x[i]? = some y := by
  obtain ⟨v, hv⟩ : ∃ v, ps.vars[i]? = some v := ⟨_, List.getElem?_eq_getElem hi⟩
  have hitem : ps.items[i]? = some (v, i + 1) := by
    simp [Positions.items, List.getElem?_zip_eq_some, hv, hi]
  obtain ⟨_, -, hentry⟩ := getElem?_of_mapM h hitem
  obtain ⟨y, hy, -⟩ := bind_eq_ok.1 hentry
  have hindex : ((i + 1 : Nat) : Int) - 1 = i := by omega
  simp only [hindex] at hy
  exact ⟨y, hy, getElem?_of_readEntry hy⟩

namespace Optimizer

/-- An optimizer has a feasible point. -/
structure HasPoint (o : Optimizer) (s : Snapshot) (x : List Float) : Prop where
  snapshot : o.snapshot = some s
  hasPrimal : s.hasPrimal = true
  primal : s.primal = o.model.vars.zip x
  length : x.length = o.model.vars.length

variable {o : Optimizer} {s : Snapshot} {x : List Float} {c : Constraint} {id : ConstraintId}

theorem HasPoint.feasible? (h : o.HasPoint s x) : o.feasible? = some s := by
  simp [Optimizer.feasible?, h.snapshot, Option.filter, h.hasPrimal]

theorem HasPoint.objectiveValue (h : o.HasPoint s x) : o.objectiveValue = some s.objective := by
  rw [Optimizer.objectiveValue, h.feasible?, Option.map_some]

theorem HasPoint.variablePrimals (h : o.HasPoint s x) (hnodup : o.model.vars.Nodup) :
    o.model.vars.mapM o.variablePrimal = .ok (x.map some) := by
  refine mapM_eq_ok.2 (List.forall₂_iff_get.2 ⟨by simp [h.length], fun i hi hx => ?_⟩)
  obtain ⟨y, hy, hprimal⟩ := variablePrimal_of_zip h.snapshot h.hasPrimal h.primal h.length
    (List.getElem_mem hi)
  rw [hnodup.idxOf_getElem i hi, List.getElem?_eq_getElem (by simpa using hx)] at hy
  cases hy
  simpa using hprimal

theorem HasPoint.constraintPrimal (h : o.HasPoint s x) (hfind : o.model.find? id = some c) :
    o.constraintPrimal id = (o.model.functionValue c.function x).map some := by
  have hvars : s.primal.map (·.1) = o.model.vars := by
    rw [h.primal, List.map_fst_zip h.length.ge]
  have hvalues : s.primal.map (·.2) = x := by
    rw [h.primal, List.map_snd_zip h.length.le]
  unfold Optimizer.constraintPrimal Model.functionValue
  rw [Model.constraint, hfind, h.feasible?]
  cases hps : Positions.ofList o.model.vars with
  | error fault => simp [hvars, hps, bind, Except.bind, Except.map]
  | ok ps =>
      cases he : Expr.ofFunction ps.position c.function with
      | error fault => simp [hvars, hps, he, bind, Except.bind, Except.map]
      | ok e =>
          simp only [hvars, hvalues, hps, he, bind, Except.bind]
          cases e.evaluate x <;> rfl

/-- A constraint on just a variable has the value of the variable. -/
theorem HasPoint.constraintPrimal_single {v : VariableId} {ps : Positions} {r : SolverResult}
    (h : o.HasPoint s r.primal.entries) (hps : Positions.ofList o.model.vars = .ok ps)
    (hs : Snapshot.ofResult ps r = .ok s) (hfind : o.model.find? id = some c)
    (hc : c.function = .single v) (hv : v ∈ o.model.vars) :
    o.constraintPrimal id = o.variablePrimal v := by
  obtain ⟨hnodup, hvars⟩ := Positions.ofList_eq_ok.1 hps
  obtain ⟨primal, hprimal, -⟩ := bind_eq_ok.1 hs
  have hi : ps.vars.idxOf v < ps.size := List.idxOf_lt_length_of_mem (hvars ▸ hv)
  -- positions that no machine word holds cannot be read, but then there is no snapshot either
  obtain ⟨y, hread, hy⟩ := Snapshot.readEntry_of_primalOf hprimal hi
  rw [hvars] at hread hy
  obtain ⟨y', hy', hvariable⟩ :=
    variablePrimal_of_zip h.snapshot h.hasPrimal h.primal h.length hv
  cases hy.symm.trans hy'
  rw [h.constraintPrimal hfind, hc, Model.functionValue_single hnodup hv, hread, hvariable]
  rfl

end Optimizer

/-! ## Sessions without failures -/

/-- The model and the plugin of the solve that a call asks for. -/
def Call.solve? (m : Model) : Call σ → Option (Model × SolverProvider σ)
  | .optimize provider _ => some (m, provider)
  | .edit _ | .query _ => none

namespace Session

variable {S : Session σ} {m : Model} {provider : SolverProvider σ} {p : Problem}
  {r : SolverResult} {s : Snapshot} {last : Option (Model × SolverProvider σ)} {c : Constraint}
  {id : ConstraintId}

/-- The sessions all calls of which succeeded, with the model and the plugin of the last solve. -/
inductive Successful : Session σ → Option (Model × SolverProvider σ) → Prop where
  | start (s : Settings) (evaluator : EvaluatorState) (events : List Event) (memory : σ) :
    Successful ⟨⟨.ofSettings s, evaluator, events, memory⟩, none⟩ none
  | perform {S : Session σ} {last : Option (Model × SolverProvider σ)} (c : Call σ) :
    Successful S last → (S.perform c).1 = .ok () →
      Successful (S.perform c).2 ((c.solve? S.optimizer.model).or last)

theorem Successful.reachable (h : S.Successful last) : S.Reachable := by
  induction h with
  | start s evaluator events memory => exact .start s evaluator events memory
  | perform c _ _ ih => exact ih.perform c

theorem Current.optimize_model (h : S.Current) (quiet : provider.Quiet) :
    (S.perform (.optimize provider quiet)).2.optimizer.model = S.optimizer.model := by
  unfold Session.perform
  rcases Optimizer.optimize_cases quiet h.idle with ⟨fault, w', ho, hw'⟩ | ⟨w', ho, hw'⟩ |
    ⟨p, r, s, w', -, -, -, -, ho, hw'⟩ <;> simp only [ho, optimizer, hw']

theorem Reachable.model_reachable (h : S.Reachable) : S.optimizer.model.Reachable := by
  induction h with
  | start s evaluator events memory => exact .empty
  | @perform S c hS ih =>
      cases c with
      | edit e =>
          show (S.optimizer.perform e).2.model.Reachable
          rw [Optimizer.perform_model]
          exact ih.perform e
      | query read => exact ih
      | optimize provider quiet =>
          rw [hS.current.optimize_model quiet]
          exact ih

/-- The feasible point is what a plugin returned for a model, which is the current one. -/
structure Solved (S : Session σ) (m : Model) (provider : SolverProvider σ) (p : Problem)
    (r : SolverResult) (s : Snapshot) : Prop where
  reachable : m.Reachable
  model : S.optimizer.model = { m with starts := S.optimizer.model.starts }
  problem : m.problem = .ok p
  returned : ∃ w, w.optimizer.model = m ∧ Optimizer.answer? provider w = some r
  answer : S.answer = some r
  shape : r.primal.shape = [p.variableCount]
  kept : Snapshot.ofResult p.evaluator.positions r = .ok s
  snapshot : S.optimizer.snapshot = some s
  hasPrimal : s.hasPrimal = true

theorem Solved.edit (h : S.Solved m provider p r s) {e : Edit} (he : e.isChange = false) :
    (S.perform (.edit e)).2.Solved m provider p r s :=
  { h with
    model := by
      show (S.optimizer.perform e).2.model =
        { m with starts := (S.optimizer.perform e).2.model.starts }
      rw [Optimizer.perform_model, S.optimizer.model.perform_of_not_isChange he, h.model]
    snapshot := (Optimizer.perform_snapshot_of_not_isChange he).trans h.snapshot }

theorem Reachable.solved_optimize (h : S.Reachable) (quiet : provider.Quiet)
    (hok : (S.perform (.optimize provider quiet)).1 = .ok ())
    (hs : (S.perform (.optimize provider quiet)).2.optimizer.snapshot = some s)
    (hp : s.hasPrimal = true) : ∃ p r,
    (S.perform (.optimize provider quiet)).2.Solved S.optimizer.model provider p r s := by
  have hmodel := h.current.optimize_model quiet
  rcases Optimizer.optimize_cases quiet h.current.idle with ⟨fault, w', ho, hw'⟩ |
    ⟨w', ho, hw'⟩ | ⟨p, r, s', w', hproblem, hanswer, hshape, hkept, ho, hw'⟩
  · simp only [Session.perform, ho] at hok
    cases hok
  · simp only [Session.perform, ho, optimizer, hw', Option.some.injEq] at hs
    rw [← hs, Snapshot.failure_hasPrimal] at hp
    cases hp
  · have hsame := hs
    simp only [Session.perform, ho, optimizer, hw', Option.some.injEq] at hsame
    subst hsame
    have hr : (S.perform (.optimize provider quiet)).2.answer = some r := by
      simp only [Session.perform, ho, hanswer]
    exact ⟨p, r, h.model_reachable, by rw [hmodel], hproblem,
      ⟨Optimizer.begun S.world, rfl, hanswer⟩, hr, hshape, hkept, hs, hp⟩

/-- If no call fails, a feasible point is that of the last solve, of the model as it is. -/
theorem Successful.solved (h : S.Successful last) (hs : S.optimizer.snapshot = some s)
    (hp : s.hasPrimal = true) :
    ∃ m provider p r, last = some (m, provider) ∧ S.Solved m provider p r s := by
  induction h with
  | start => cases hs
  | @perform S last c hS hok ih =>
      cases c with
      | query read => exact ih hs
      | edit e =>
          cases he : e.isChange with
          | true =>
              -- a change that succeeds leaves no snapshot
              cases (Optimizer.perform_snapshot_of_isChange he hok).symm.trans hs
          | false =>
              obtain ⟨m, provider, p, r, hlast, hsolved⟩ :=
                ih ((Optimizer.perform_snapshot_of_not_isChange he).symm.trans hs)
              exact ⟨m, provider, p, r, hlast, hsolved.edit he⟩
      | optimize provider quiet =>
          obtain ⟨p, r, hsolved⟩ := hS.reachable.solved_optimize quiet hok hs hp
          exact ⟨_, provider, p, r, rfl, hsolved⟩

/-! ## Values of queries -/

theorem Solved.hasPoint (h : S.Solved m provider p r s) :
    S.optimizer.HasPoint s r.primal.entries := by
  obtain ⟨hpositions, hcount⟩ := positions_of_problem h.problem
  have hvars : S.optimizer.model.vars = m.vars := by rw [h.model]
  have hlen : r.primal.entries.length = m.vars.length := by
    rw [r.primal.filled, h.shape, hcount]
    simp [cellCount]
  have hentries := Snapshot.ofResult_eq_ok (by rw [Positions.size, hpositions, hlen]) h.kept
  exact ⟨h.snapshot, h.hasPrimal, by rw [hentries, hpositions, hvars], hlen.trans (by rw [hvars])⟩

theorem Solved.constraintPrimal_algebraic (h : S.Solved m provider p r s)
    (hfind : S.optimizer.model.find? id = some c) (ha : c.IsAlgebraic) (state : EvaluatorState) :
    ∃ e, p.evaluator.constraintExpression
        (S.optimizer.model.nonlinearBounds.length + S.optimizer.model.rank id : Nat) state =
          .ok e state ∧
      S.optimizer.constraintPrimal id = (e.evaluate r.primal.entries).map some := by
  have hfind' : m.find? id = some c := by
    rw [h.model] at hfind
    exact hfind
  obtain ⟨e, he, hvalue⟩ := h.reachable.constraintExpression_eq h.problem hfind' ha state
  refine ⟨e, ?_, ?_⟩
  · rw [h.model]
    exact he
  · rw [h.hasPoint.constraintPrimal hfind, hvalue, h.model]
    rfl

theorem Solved.constraintPrimal_single {v : VariableId} (h : S.Solved m provider p r s)
    (hv : v ∈ S.vars) (hfind : S.optimizer.model.find? id = some c) (hc : c.function = .single v) :
    S.optimizer.constraintPrimal id = S.optimizer.variablePrimal v := by
  obtain ⟨ps, rows, objective, hps, -, -, hu, -⟩ := Model.evaluator_of_problem h.problem
  have hkept := h.kept
  rw [hu] at hkept
  have hps' : Positions.ofList S.optimizer.model.vars = .ok ps := by
    rw [h.model]
    exact hps
  exact h.hasPoint.constraintPrimal_single hps' hkept hfind hc hv

theorem Solved.objectiveValue {minimizer : Numeric.Minimizer}
    {keep : Numeric.Exchange → σ → σ} (h : S.Solved m (Numeric.provider minimizer keep) p r s)
    (hsense : S.optimizer.model.sense ≠ .feasibility)
    (htrivial : S.optimizer.model.objective.isTrivial = false) :
    ∃ y, S.optimizer.objectiveValue = some y ∧
      S.optimizer.model.functionValue S.optimizer.model.objective r.primal.entries = .ok y := by
  rw [h.model] at hsense htrivial
  obtain ⟨e, he, hvalue⟩ := Model.objective_of_problem h.problem hsense htrivial
  obtain ⟨w, hw, hanswer⟩ := h.returned
  have hobjective := Numeric.evaluate_of_answer (by rw [hw, h.problem]) he hanswer
  obtain ⟨primal, -, hs⟩ := bind_eq_ok.1 h.kept
  refine ⟨s.objective, h.hasPoint.objectiveValue, ?_⟩
  rw [h.model, ← pure_eq_ok.1 hs]
  exact (hvalue _).symm.trans hobjective

/--
If no call fails and the last solve was one with the numerical backend that ended with an optimal
point, then queries agree with the solve. An algebraic constraint has the value of the expression at
its index in the problem, or fails like it. A constraint on just a variable has the value of the
variable. The objective value is that of the objective at the values of the variables, whatever the
sense.
-/
theorem Successful.queries_agree {minimizer : Numeric.Minimizer} {keep : Numeric.Exchange → σ → σ}
    (h : S.Successful (some (m, Numeric.provider minimizer keep)))
    (hoptimal : S.optimizer.rawStatus = some SolverStatus.optimal.symbol) :
    ∃ p r, m.problem = .ok p ∧ S.answer = some r ∧
      S.vars.mapM S.optimizer.variablePrimal = .ok (r.primal.entries.map some) ∧
      (∀ id c, S.optimizer.model.find? id = some c → c.IsAlgebraic → ∀ state, ∃ e,
        p.evaluator.constraintExpression
          (S.optimizer.model.nonlinearBounds.length + S.optimizer.model.rank id : Nat) state =
            .ok e state ∧
        S.optimizer.constraintPrimal id = (e.evaluate r.primal.entries).map some) ∧
      (∀ id c v, S.optimizer.model.find? id = some c → c.function = .single v →
        S.optimizer.constraintPrimal id = S.optimizer.variablePrimal v) ∧
      (S.optimizer.model.sense ≠ .feasibility → S.optimizer.model.objective.isTrivial = false →
        ∃ y, S.optimizer.objectiveValue = some y ∧
          S.optimizer.model.functionValue S.optimizer.model.objective r.primal.entries =
            .ok y) := by
  obtain ⟨s, hs, hstatus⟩ := Option.map_eq_some_iff.1 hoptimal
  obtain ⟨_, _, p, r, hlast, hsolved⟩ := h.solved hs (Snapshot.hasPrimal_iff.2 hstatus)
  cases hlast
  have hwell := h.reachable.model_reachable.wellFormed
  refine ⟨p, r, hsolved.problem, hsolved.answer, hsolved.hasPoint.variablePrimals hwell.nodup,
    fun id c hfind ha state => hsolved.constraintPrimal_algebraic hfind ha state, ?_,
    hsolved.objectiveValue⟩
  intro id c v hfind hc
  have hv : v ∈ S.vars :=
    hwell.constraint_vars c (Model.mem_of_find? hfind).1 v (by simp [hc, ScalarFunction.vars])
  exact hsolved.constraintPrimal_single hv hfind hc

/-- A model of two variables, whose weighted sum is to be large. -/
def weighted : Session Unit :=
  let S : Session Unit := ⟨⟨.ofSettings .default, .initial, [], ()⟩, none⟩
  let S := (S.perform (.edit (.addVariables 2))).2
  let S := (S.perform (.edit (.addConstraint (.function (.single ⟨1⟩)) (.lessThan ⟨4, rfl⟩)))).2
  let S := (S.perform (.edit
    (.addConstraint (.function (.affine [⟨1, ⟨1⟩⟩, ⟨1, ⟨2⟩⟩] 0)) (.lessThan ⟨5, rfl⟩)))).2
  (S.perform (.edit (.setObjective (.function (.affine [⟨1, ⟨1⟩⟩, ⟨2, ⟨2⟩⟩] 0)) (.text "max")))).2

theorem successful_weighted : weighted.Successful none := by
  refine .perform _ (.perform _ (.perform _ (.perform _ (.start _ _ _ _) ?_) ?_) ?_) ?_ <;>
    exact ok_of_isOk (by decide +kernel)

theorem queries_agree_weighted :
    let provider : SolverProvider Unit := Numeric.provider (Numeric.claiming [4, 1]) fun _ k => k
    let S := (weighted.perform (.optimize provider (Numeric.provider_quiet _ _))).2
    S.Successful (some (weighted.optimizer.model, provider)) ∧
      S.optimizer.rawStatus = some SolverStatus.optimal.symbol ∧
      ∃ p r, weighted.optimizer.model.problem = .ok p ∧ S.answer = some r ∧
        S.vars.mapM S.optimizer.variablePrimal = .ok (r.primal.entries.map some) ∧
        (∃ e, p.evaluator.constraintExpression (1 : Nat) .initial = .ok e .initial ∧
          S.optimizer.constraintPrimal ⟨2, .affine, .lessThan⟩ =
            (e.evaluate r.primal.entries).map some) ∧
        S.optimizer.constraintPrimal ⟨1, .single, .lessThan⟩ = S.optimizer.variablePrimal ⟨1⟩ ∧
        ∃ y, S.optimizer.objectiveValue = some y ∧
          S.optimizer.model.functionValue S.optimizer.model.objective r.primal.entries = .ok y := by
  intro provider S
  have hsuccessful : S.Successful (some (weighted.optimizer.model, provider)) :=
    .perform _ successful_weighted (ok_of_isOk (by decide +kernel))
  have hoptimal : S.optimizer.rawStatus = some SolverStatus.optimal.symbol := by decide +kernel
  have hmodel : S.optimizer.model = weighted.optimizer.model :=
    successful_weighted.reachable.current.optimize_model _
  obtain ⟨p, r, hp, hr, hvars, halgebraic, hsingle, hobjective⟩ :=
    hsuccessful.queries_agree hoptimal
  rw [hmodel] at halgebraic hsingle
  refine ⟨hsuccessful, hoptimal, p, r, hp, hr, hvars, ?_, ?_, hobjective ?_ ?_⟩
  · exact halgebraic ⟨2, .affine, .lessThan⟩ _ rfl (by decide +kernel) .initial
  · exact hsingle _ _ _ rfl rfl
  · rw [hmodel]
    decide +kernel
  · rw [hmodel]
    decide +kernel

end Session

end Extremum
