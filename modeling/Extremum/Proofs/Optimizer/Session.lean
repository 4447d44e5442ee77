import Extremum.Proofs.Optimizer.Edit
import Extremum.Proofs.Optimizer.Solve
import Extremum.Proofs.Problem.Assembly
import Extremum.Proofs.Solution.Snapshot

/-!
# Sessions

A session is a run of calls on one optimizer, made one after another. In every session the snapshot
belongs to the model as it is: its point assigns to each variable, in order, the entry of the vector
that the solver returned in the last solve. All queries for the solution agree about it.
-/

namespace Extremum

variable {σ : Type}

/-- A call on an optimizer. While a solver runs, there are no other calls. -/
inductive Call (σ : Type) where
  | edit (e : Edit)
  /-- A query looks at the optimizer, and may fail. -/
  | query (read : Optimizer → Except Fault Unit)
  | optimize (provider : SolverProvider σ) (quiet : provider.Quiet)

/-- An optimizer with its surroundings, and what the solver returned in the last solve. -/
structure Session (σ : Type) where
  world : World σ
  answer : Option SolverResult

namespace Session

def optimizer (S : Session σ) : Optimizer := S.world.optimizer

def vars (S : Session σ) : List VariableId := S.optimizer.model.vars

/-- The outcome of a call and the session after it. -/
def perform (S : Session σ) : Call σ → Except Fault Unit × Session σ
  | .edit e =>
    let (outcome, o) := S.optimizer.perform e
    (outcome, { S with world := { S.world with optimizer := o } })
  | .query read => (read S.optimizer, S)
  | .optimize provider _ =>
    let answer := Optimizer.answer? provider (Optimizer.begun S.world)
    match Optimizer.optimize provider S.world with
    | .ok () w => (.ok (), ⟨w, answer⟩)
    | .error fault w => (.error fault, ⟨w, answer⟩)

/-- The sessions that begin with a new optimizer. -/
inductive Reachable : Session σ → Prop where
  | start (s : Settings) (evaluator : EvaluatorState) (events : List Event) (memory : σ) :
    Reachable ⟨⟨.ofSettings s, evaluator, events, memory⟩, none⟩
  | perform {S : Session σ} (c : Call σ) : Reachable S → Reachable (S.perform c).2

end Session

/-! ## The solution of one optimizer -/

namespace Optimizer

/-- All queries for a solution agree on whether there is one. -/
structure StatusesAgree (o : Optimizer) : Prop where
  primalStatus : o.resultCount = 1 ↔ o.primalStatus = .feasiblePoint
  termination : o.resultCount = 1 ↔ o.termination = .locallySolved
  objective : o.resultCount = 1 ↔ o.objectiveValue ≠ none
  known : o.resultCount = 1 → ∀ v ∈ o.model.vars, ∃ x, o.variablePrimal v = .ok (some x)
  unknown : o.resultCount ≠ 1 → ∀ v ∈ o.model.vars, o.variablePrimal v = .ok none

/-- The optimizer knows nothing of a solve. -/
structure KnowsNothing (o : Optimizer) : Prop where
  rawStatus : o.rawStatus = none
  termination : o.termination = .notCalled
  objective : o.objectiveValue = none
  vars : ∀ v ∈ o.model.vars, o.variablePrimal v = .ok none
  constraints : ∀ id c, o.model.find? id = some c → o.constraintPrimal id = .ok none

variable {o : Optimizer} {v : VariableId}

theorem resultCount_eq_one :
    o.resultCount = 1 ↔ ∃ s, o.snapshot = some s ∧ s.hasPrimal = true := by
  unfold resultCount rawStatus
  rw [ResultStatus.count_eq_one]
  cases o.snapshot with
  | none => simp
  | some s => simp [Snapshot.hasPrimal_iff]

theorem feasible?_eq_none : o.feasible? = none ↔ o.resultCount ≠ 1 := by
  rw [Ne, resultCount_eq_one]
  unfold feasible?
  cases o.snapshot with
  | none => simp
  | some s => simp [Option.filter]

theorem variablePrimal_of_infeasible (h : o.resultCount ≠ 1) (hv : v ∈ o.model.vars) :
    o.variablePrimal v = .ok none := by
  unfold variablePrimal
  rw [Model.checkVariable, if_pos hv, feasible?_eq_none.2 h]
  rfl

theorem variablePrimal_of_zip {s : Snapshot} {xs : List Float} (hs : o.snapshot = some s)
    (hp : s.hasPrimal = true) (hprimal : s.primal = o.model.vars.zip xs)
    (hlen : xs.length = o.model.vars.length) (hv : v ∈ o.model.vars) :
    ∃ x, xs[o.model.vars.idxOf v]? = some x ∧ o.variablePrimal v = .ok (some x) := by
  have hi : o.model.vars.idxOf v < xs.length := by
    rw [hlen]
    exact List.idxOf_lt_length_of_mem hv
  have hx := List.getElem?_eq_getElem hi
  refine ⟨_, hx, ?_⟩
  have hvalue : s.value v = .ok xs[o.model.vars.idxOf v] := by
    rw [Snapshot.value, hprimal, lookup_zip _ _ _ hlen.symm, hx]
  have hfeasible : o.feasible? = some s := by simp [feasible?, hs, Option.filter, hp]
  unfold variablePrimal
  rw [Model.checkVariable, if_pos hv, hfeasible]
  show (do return some (← s.value v)) = _
  rw [hvalue]
  rfl

theorem knowsNothing (h : o.snapshot = none) : o.KnowsNothing := by
  have hcount : o.resultCount ≠ 1 := by
    rw [Ne, resultCount_eq_one, h]
    simp
  have hraw : o.rawStatus = none := by rw [rawStatus, h, Option.map_none]
  refine ⟨hraw, ?_, ?_, fun v hv => variablePrimal_of_infeasible hcount hv, ?_⟩
  · rw [termination, hraw, Termination.ofSymbol]
  · rw [objectiveValue, feasible?_eq_none.2 hcount, Option.map_none]
  · intro id c hc
    unfold constraintPrimal
    rw [Model.constraint, hc, feasible?_eq_none.2 hcount]
    rfl

theorem statusesAgree (h : ∀ s, o.snapshot = some s → s.hasPrimal = true →
    ∀ v ∈ o.model.vars, ∃ x, o.variablePrimal v = .ok (some x)) : o.StatusesAgree := by
  refine ⟨?_, ?_, ?_, ?_, fun hcount v hv => variablePrimal_of_infeasible hcount hv⟩
  · rw [resultCount, primalStatus, ResultStatus.count_eq_one, ResultStatus.primal_eq_feasiblePoint]
  · rw [resultCount, termination, ResultStatus.count_eq_one, Termination.ofSymbol_eq_locallySolved]
  · rw [objectiveValue, Ne, Option.map_eq_none_iff, feasible?_eq_none, Ne, Decidable.not_not]
  · intro hcount
    obtain ⟨s, hs, hp⟩ := resultCount_eq_one.1 hcount
    exact h s hs hp

end Optimizer

/-! ## The invariant -/

namespace Session

variable {S : Session σ}

/-- Between calls no solve is in progress, and a feasible point fits the model and the solver. -/
structure Current (S : Session σ) : Prop where
  wellFormed : S.optimizer.model.WellFormed
  idle : S.optimizer.inProgress = false
  point : ∀ s, S.optimizer.snapshot = some s → s.hasPrimal = true →
    ∃ r, S.answer = some r ∧ r.primal.entries.length = S.vars.length ∧
      s.primal = S.vars.zip r.primal.entries

theorem Current.start (s : Settings) (evaluator : EvaluatorState) (events : List Event)
    (memory : σ) : Current ⟨⟨.ofSettings s, evaluator, events, memory⟩, none⟩ where
  wellFormed := .empty
  idle := rfl
  point := by
    intro s hs
    cases hs

theorem Current.edit (h : S.Current) (e : Edit) : (S.perform (.edit e)).2.Current where
  wellFormed := by
    show (S.optimizer.perform e).2.model.WellFormed
    rw [Optimizer.perform_model]
    exact h.wellFormed.perform e
  idle := (S.optimizer.perform_inProgress e).trans h.idle
  point := by
    intro s hs hp
    rcases S.optimizer.perform_snapshot_cases e with hnone | ⟨hsame, hvars⟩
    · cases hnone.symm.trans hs
    · obtain ⟨r, hr, hlen, hprimal⟩ := h.point s (hsame.symm.trans hs) hp
      have hvars' : (S.perform (.edit e)).2.vars = S.vars := hvars
      exact ⟨r, hr, by rw [hvars', hlen], by rw [hvars', hprimal]⟩

theorem positions_of_problem {m : Model} {p : Problem} (hp : m.problem = .ok p) :
    p.evaluator.positions.vars = m.vars ∧ p.variableCount = m.vars.length := by
  obtain ⟨ps, rows, objective, hps, -, -, hu, hcount⟩ := Model.evaluator_of_problem hp
  refine ⟨?_, hcount⟩
  rw [hu]
  exact (Positions.ofList_eq_ok.1 hps).2

theorem Current.optimize (h : S.Current) (provider : SolverProvider σ) (quiet : provider.Quiet) :
    (S.perform (.optimize provider quiet)).2.Current := by
  unfold Session.perform
  rcases Optimizer.optimize_cases quiet h.idle with ⟨fault, w', ho, hw'⟩ | ⟨w', ho, hw'⟩ |
    ⟨p, r, s, w', hp, hanswer, hshape, hsnapshot, ho, hw'⟩
  · simp only [ho]
    refine ⟨?_, ?_, ?_⟩ <;> simp only [optimizer, vars, hw']
    · exact h.wellFormed
    · exact h.idle
    · intro s hs
      cases hs
  · simp only [ho]
    refine ⟨?_, ?_, ?_⟩ <;> simp only [optimizer, vars, hw']
    · exact h.wellFormed
    · exact h.idle
    · intro s hs hprimal
      cases hs
      rw [Snapshot.failure_hasPrimal] at hprimal
      cases hprimal
  · simp only [ho, hanswer]
    obtain ⟨hvars, hcount⟩ := positions_of_problem hp
    have hlen : r.primal.entries.length = S.world.optimizer.model.vars.length := by
      rw [r.primal.filled, hshape, hcount]
      simp [cellCount]
    have hs := Snapshot.ofResult_eq_ok (by rw [Positions.size, hvars, hlen]) hsnapshot
    refine ⟨?_, ?_, ?_⟩ <;> simp only [optimizer, vars, hw']
    · exact h.wellFormed
    · exact h.idle
    · intro s' hs' _
      cases hs'
      exact ⟨r, rfl, hlen, by rw [hs, hvars]⟩

theorem Current.perform (h : S.Current) (c : Call σ) : (S.perform c).2.Current := by
  cases c with
  | edit e => exact h.edit e
  | query read => exact h
  | optimize provider quiet => exact h.optimize provider quiet

theorem Reachable.current (h : S.Reachable) : S.Current := by
  induction h with
  | start s evaluator events memory => exact .start s evaluator events memory
  | perform c _ ih => exact ih.perform c

/-! ## No stale solutions -/

/--
At every moment of a session, a feasible point has exactly the variables of the model, in order,
with the entries that the solver returned for their positions in the last solve. A successful change
of the model leaves no snapshot; start values and queries keep it. All statuses agree.
-/
theorem Reachable.solution_current (h : S.Reachable) :
    (∀ s, S.optimizer.snapshot = some s → s.hasPrimal = true →
      s.primal.map (·.1) = S.vars ∧ ∃ r, S.answer = some r ∧ ∀ v ∈ S.vars, ∃ x,
        r.primal.entries[S.vars.idxOf v]? = some x ∧
        S.optimizer.variablePrimal v = .ok (some x)) ∧
    (∀ e, e.isChange = true → (S.perform (.edit e)).1 = .ok () →
      (S.perform (.edit e)).2.optimizer.snapshot = none) ∧
    (∀ e, e.isChange = false →
      (S.perform (.edit e)).2.optimizer.snapshot = S.optimizer.snapshot ∧
      (S.perform (.edit e)).2.optimizer.model = { S.optimizer.model with
        starts := (S.perform (.edit e)).2.optimizer.model.starts }) ∧
    (∀ read, (S.perform (.query read)).2 = S) ∧
    S.optimizer.StatusesAgree ∧
    (S.optimizer.snapshot = none → S.optimizer.KnowsNothing) := by
  have hpoint : ∀ s, S.optimizer.snapshot = some s → s.hasPrimal = true →
      s.primal.map (·.1) = S.vars ∧ ∃ r, S.answer = some r ∧ ∀ v ∈ S.vars, ∃ x,
        r.primal.entries[S.vars.idxOf v]? = some x ∧
        S.optimizer.variablePrimal v = .ok (some x) := by
    intro s hs hp
    obtain ⟨r, hr, hlen, hprimal⟩ := h.current.point s hs hp
    refine ⟨?_, r, hr, fun v hv => Optimizer.variablePrimal_of_zip hs hp hprimal hlen hv⟩
    rw [hprimal]
    exact List.map_fst_zip hlen.ge
  refine ⟨hpoint, ?_, ?_, fun _ => rfl, ?_, Optimizer.knowsNothing⟩
  · exact fun e he hok => Optimizer.perform_snapshot_of_isChange he hok
  · intro e he
    refine ⟨Optimizer.perform_snapshot_of_not_isChange he, ?_⟩
    show (S.optimizer.perform e).2.model =
      { S.optimizer.model with starts := (S.optimizer.perform e).2.model.starts }
    rw [Optimizer.perform_model]
    exact S.optimizer.model.perform_of_not_isChange he
  · refine Optimizer.statusesAgree fun s hs hp v hv => ?_
    obtain ⟨-, r, -, hvalues⟩ := hpoint s hs hp
    obtain ⟨x, -, hx⟩ := hvalues v hv
    exact ⟨x, hx⟩

/-- A plugin that returns the same value for all variables. -/
def uniform (status : String) (x : Float) : SolverProvider Unit where
  checkOptions _ _ := .ok ()
  create _ := .ok fun p => pure ⟨status, x, .ofList (List.replicate p.variableCount x)⟩

theorem uniform_quiet (status : String) (x : Float) : (uniform status x).Quiet := by
  intro s solver hsolver p w
  cases hsolver
  rfl

/-- The first of two variables is deleted before a solve; the second one has the only value. -/
theorem solution_current_uniform :
    let S : Session Unit := ⟨⟨.ofSettings .default, .initial, [], ()⟩, none⟩
    let S := (S.perform (.edit (.addVariables 2))).2
    let S := (S.perform (.edit (.deleteVariable ⟨1⟩))).2
    let S := (S.perform (.optimize (uniform "Optimal" 7) (uniform_quiet _ _))).2
    S.vars = [⟨2⟩] ∧ ∃ r, S.answer = some r ∧ ∃ x, r.primal.entries[0]? = some x ∧
      S.optimizer.variablePrimal ⟨2⟩ = .ok (some x) := by
  intro S₀ S₁ S₂ S
  have h : S.Reachable := (((Reachable.start _ _ _ _).perform _).perform _).perform _
  have hvars : S.vars = [⟨2⟩] := rfl
  obtain ⟨-, r, hr, hvalues⟩ := h.solution_current.1 _ rfl rfl
  obtain ⟨x, hx, hprimal⟩ := hvalues ⟨2⟩ (by rw [hvars]; exact List.mem_singleton_self _)
  rw [hvars] at hx
  exact ⟨hvars, r, hr, x, hx, hprimal⟩

end Session

end Extremum
