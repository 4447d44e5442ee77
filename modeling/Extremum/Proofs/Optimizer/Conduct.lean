import Extremum.Proofs.Optimizer.Session

/-!
# How solves end

Between solves an optimizer is idle, whatever the solves came to. A solve can fail before the solver
is called, in the solver, or by what the solver returns. In each case the solve is over afterwards,
and there is a snapshot unless a fault is passed on. If the solver leaves the optimizer alone, the
model is as before.
-/

namespace Extremum

variable {σ α β : Type}

/-! ## Discreet actions -/

namespace World

theorem discreet_pure (a : α) : Discreet (pure a : WorldM σ α) := fun _ _ => rfl

theorem Discreet.bind {x : WorldM σ α} {f : α → WorldM σ β} (hx : Discreet x)
    (hf : ∀ a, Discreet (f a)) : Discreet (x >>= f) := by
  intro w hw
  have hkept := hx w hw
  show (after (EStateM.bind x f w)).optimizer = _
  unfold EStateM.bind
  cases h : x w with
  | error fault w' =>
      rw [h] at hkept
      exact hkept
  | ok a w' =>
      rw [h] at hkept
      have hw' : w'.optimizer = w.optimizer := hkept
      exact (hf a w' (by rw [hw', hw])).trans hw'

end World

namespace Optimizer

open World

variable {provider : SolverProvider σ} {w : World σ} {p : Problem} {s : Snapshot}
  {response : Except Fault SolverResult} {fault : Fault} {r : SolverResult}

/-- While a solve is in progress, another one is refused and changes nothing. -/
theorem optimize_of_inProgress (provider : SolverProvider σ) (hw : w.optimizer.inProgress = true) :
    optimize provider w = .error .solveInProgress w := by
  have hrefused : optimize provider w = (throw .solveInProgress : WorldM σ Unit) w := by
    show (if w.optimizer.inProgress = true then _ else _ : WorldM σ Unit) w = _
    rw [if_pos hw]
    rfl
  rw [hrefused]
  rfl

/-- A solve drops the snapshot before anything else. -/
theorem optimize_of_snapshot (hw : w.optimizer.inProgress = false) (s : Option Snapshot) :
    optimize provider { w with optimizer := { w.optimizer with snapshot := s } } =
      optimize provider w := by
  have hw' : ({ w with optimizer := { w.optimizer with snapshot := s } } :
    World σ).optimizer.inProgress = false := hw
  exact (optimize_of_idle hw').trans (optimize_of_idle hw).symm

/-- A solver may try to solve again. -/
theorem discreet_optimize (provider : SolverProvider σ) : Discreet (optimize provider) := by
  intro w hw
  rw [optimize_of_inProgress provider hw]
  rfl

/-! ## The snapshot -/

/-- How the solver fares in a solve, if it is called. -/
def response? (provider : SolverProvider σ) (w : World σ) : Option (Except Fault SolverResult) :=
  match prepared provider w with
  | .ok (p, solver) w => some (resultOf (solver p w))
  | .error _ _ => none

theorem response?_eq_none (hp : w.optimizer.model.problem = .ok p) :
    response? provider w = none ↔ ∃ fault, provider.create w.optimizer.settings = .error fault := by
  obtain ⟨replaced, hprepared⟩ := prepared_of_problem provider hp
  rw [response?, hprepared]
  cases provider.create w.optimizer.settings <;> simp

theorem outcome_of_create (hp : w.optimizer.model.problem = .ok p)
    (hcreate : provider.create w.optimizer.settings = .error fault) :
    outcome provider w = .error fault := by
  obtain ⟨replaced, hprepared⟩ := prepared_of_problem provider hp
  rw [outcome, hprepared, hcreate]

theorem outcome_of_response (hp : w.optimizer.model.problem = .ok p)
    (hresponse : response? provider w = some response) :
    outcome provider w = keptOf p.evaluator.positions (response >>= accepted p) := by
  rcases prepared_cases provider w with
    ⟨fault, w₁, hprepared, -⟩ | ⟨p', solver, w₁, hprepared, -, hp', -⟩
  · rw [response?, hprepared] at hresponse
    cases hresponse
  · cases hp.symm.trans hp'
    rw [response?, hprepared] at hresponse
    cases hresponse
    rw [outcome, hprepared]

theorem outcome_of_failure {message : String} (hp : w.optimizer.model.problem = .ok p)
    (hresponse : response? provider w = some (.error (.solverFailure message))) :
    outcome provider w = .ok .failure := by
  rw [outcome_of_response hp hresponse]
  rfl

theorem outcome_of_fault (hp : w.optimizer.model.problem = .ok p)
    (hresponse : response? provider w = some (.error fault))
    (hother : ∀ message, fault ≠ .solverFailure message) :
    outcome provider w = .error fault := by
  rw [outcome_of_response hp hresponse]
  cases fault with
  | solverFailure message => exact absurd rfl (hother message)
  | _ => rfl

theorem outcome_of_misshapen (hp : w.optimizer.model.problem = .ok p)
    (hresponse : response? provider w = some (.ok r))
    (hshape : r.primal.shape ≠ [p.variableCount]) : outcome provider w = .ok .failure := by
  have hbind : (Except.ok r >>= accepted p) = accepted p r := rfl
  rw [outcome_of_response hp hresponse, hbind]
  rcases accepted_cases p r with ⟨hsame, -⟩ | ⟨-, message, haccepted⟩
  · exact absurd hsame hshape
  · rw [haccepted]
    rfl

theorem outcome_of_result (hp : w.optimizer.model.problem = .ok p)
    (hresponse : response? provider w = some (.ok r))
    (hshape : r.primal.shape = [p.variableCount]) (hlimit : (p.variableCount : Int) ≤ indexLimit) :
    outcome provider w =
      .ok ⟨r.status, r.objective, w.optimizer.model.vars.zip r.primal.entries⟩ := by
  have hbind : (Except.ok r >>= accepted p) = accepted p r := rfl
  obtain ⟨hvars, hcount⟩ := Session.positions_of_problem hp
  have hsize : p.evaluator.positions.size = p.variableCount := by rw [Positions.size, hvars, hcount]
  have hlen : r.primal.entries.length = p.evaluator.positions.size := by
    rw [hsize, r.primal.filled, hshape]
    simp [cellCount]
  rw [outcome_of_response hp hresponse, hbind]
  rcases accepted_cases p r with ⟨-, haccepted⟩ | ⟨hother, -⟩
  · rw [haccepted, ← hvars]
    exact Snapshot.ofResult_of_length hlen (by rwa [hsize])
  · exact absurd hshape hother

/-! ## The end of a solve -/

/-- How a solve ends, by how the solver fares in it. -/
structure Conducted (provider : SolverProvider σ) (w : World σ) : Prop where
  idle : (after (optimize provider w)).optimizer.inProgress = false
  settings : provider.Discreet →
    (after (optimize provider w)).optimizer.settings = w.optimizer.settings
  model : provider.Discreet → (after (optimize provider w)).optimizer.model = w.optimizer.model
  /-- There is no snapshot if and only if a fault is passed on. -/
  absent : provider.Discreet → ((after (optimize provider w)).optimizer.snapshot = none ↔
    ∃ fault, resultOf (optimize provider w) = .error fault)
  /-- The solver is called, unless there is none for the settings. -/
  called : response? provider (begun w) = none ↔
    ∃ fault, provider.create w.optimizer.settings = .error fault
  uncreated : ∀ fault, provider.create w.optimizer.settings = .error fault →
    resultOf (optimize provider w) = .error fault
  /-- A fault of the solver is passed on, unless it is a failure. -/
  passed : ∀ fault, response? provider (begun w) = some (.error fault) →
    (∀ message, fault ≠ .solverFailure message) → resultOf (optimize provider w) = .error fault
  failed : ∀ message, response? provider (begun w) = some (.error (.solverFailure message)) →
    resultOf (optimize provider w) = .ok () ∧
      (after (optimize provider w)).optimizer.snapshot = some .failure
  misshapen : ∀ r, response? provider (begun w) = some (.ok r) →
    r.primal.shape ≠ [w.optimizer.model.vars.length] →
    resultOf (optimize provider w) = .ok () ∧
      (after (optimize provider w)).optimizer.snapshot = some .failure
  /-- No array has more entries than a machine word can tell apart. -/
  mapped : ∀ r, response? provider (begun w) = some (.ok r) →
    r.primal.shape = [w.optimizer.model.vars.length] →
    (w.optimizer.model.vars.length : Int) ≤ indexLimit →
    resultOf (optimize provider w) = .ok () ∧
      (after (optimize provider w)).optimizer.snapshot =
        some ⟨r.status, r.objective, w.optimizer.model.vars.zip r.primal.entries⟩
  /-- The solve does not depend on the snapshot before. -/
  forgetful : ∀ s, optimize provider { w with optimizer := { w.optimizer with snapshot := s } } =
    optimize provider w
  /-- When the solver is called, the solve is in progress. -/
  busy : ∀ p solver w', prepared provider (begun w) = .ok (p, solver) w' →
    w'.optimizer.inProgress = true
  /-- Meanwhile, every other solve is refused, and changes nothing. -/
  refused : ∀ (provider' : SolverProvider σ) (w' : World σ), w'.optimizer.inProgress = true →
    optimize provider' w' = .error .solveInProgress w'

theorem optimize_of_outcome (hw : w.optimizer.inProgress = false)
    (houtcome : outcome provider (begun w) = .ok s) : resultOf (optimize provider w) = .ok () ∧
      (after (optimize provider w)).optimizer.snapshot = some s := by
  obtain ⟨hresult, o, hafter, -⟩ := optimize_outcome provider hw
  rw [houtcome] at hresult hafter
  exact ⟨hresult, congrArg Optimizer.snapshot hafter⟩

theorem optimize_of_outcome_error (hw : w.optimizer.inProgress = false)
    (houtcome : outcome provider (begun w) = .error fault) :
    resultOf (optimize provider w) = .error fault := by
  rw [(optimize_outcome provider hw).1, houtcome]
  rfl

theorem inProgress_prepared {solver : Solver σ} {w' : World σ}
    (hprepared : prepared provider (begun w) = .ok (p, solver) w') :
    w'.optimizer.inProgress = true := by
  rw [optimizer_of_prepared hprepared]
  rfl

theorem conducted (provider : SolverProvider σ) (hw : w.optimizer.inProgress = false)
    (hp : w.optimizer.model.problem = .ok p) : Conducted provider w := by
  obtain ⟨hresult, o, hafter, -⟩ := optimize_outcome provider hw
  have hbegun : (begun w).optimizer.model.problem = .ok p := hp
  have hcount := (Session.positions_of_problem hp).2
  exact {
    idle := by rw [hafter]
    settings := fun hdiscreet => by rw [optimizer_of_discreet hdiscreet hw]
    model := fun hdiscreet => by rw [optimizer_of_discreet hdiscreet hw]
    absent := fun hdiscreet => by
      rw [optimizer_of_discreet hdiscreet hw, hresult]
      cases outcome provider (begun w) <;> simp [Except.toOption, Except.map]
    called := response?_eq_none hbegun
    uncreated := fun fault hcreate =>
      optimize_of_outcome_error hw (outcome_of_create hbegun hcreate)
    passed := fun fault hresponse hother =>
      optimize_of_outcome_error hw (outcome_of_fault hbegun hresponse hother)
    failed := fun message hresponse =>
      optimize_of_outcome hw (outcome_of_failure hbegun hresponse)
    misshapen := fun r hresponse hshape =>
      optimize_of_outcome hw (outcome_of_misshapen hbegun hresponse (by rwa [hcount]))
    mapped := fun r hresponse hshape hlimit =>
      optimize_of_outcome hw
        (outcome_of_result hbegun hresponse (by rwa [hcount]) (by rwa [hcount]))
    forgetful := optimize_of_snapshot hw
    busy := fun _ _ _ => inProgress_prepared
    refused := fun provider' _ => optimize_of_inProgress provider' }

end Optimizer

/-! ## Runs -/

namespace World

/--
The worlds that edits and solves lead to from a new optimizer. Solvers may edit the model meanwhile,
and what is not part of the optimizer may change at any time.
-/
inductive Reachable : World σ → Prop where
  | start (s : Settings) (evaluator : EvaluatorState) (events : List Event) (memory : σ) :
    Reachable ⟨.ofSettings s, evaluator, events, memory⟩
  | edit {w : World σ} (e : Edit) :
    Reachable w → Reachable { w with optimizer := (w.optimizer.perform e).2 }
  | optimize {w : World σ} (provider : SolverProvider σ) :
    Reachable w → (after (Optimizer.optimize provider w)).optimizer.model.Reachable →
      Reachable (after (Optimizer.optimize provider w))
  | elsewhere {w : World σ} (evaluator : EvaluatorState) (events : List Event) (memory : σ) :
    Reachable w → Reachable ⟨w.optimizer, evaluator, events, memory⟩

variable {w : World σ} {provider : SolverProvider σ}

/-- Between calls no solve is in progress, and the model is one that edits lead to. -/
structure Settled (w : World σ) : Prop where
  idle : w.optimizer.inProgress = false
  model : w.optimizer.model.Reachable

theorem Settled.conducted (h : w.Settled) (provider : SolverProvider σ) :
    Optimizer.Conducted provider w := by
  obtain ⟨p, hp⟩ := h.model.wellFormed.problem_ok
  exact Optimizer.conducted provider h.idle hp

theorem Settled.edit (h : w.Settled) (e : Edit) :
    Settled { w with optimizer := (w.optimizer.perform e).2 } where
  idle := (w.optimizer.perform_inProgress e).trans h.idle
  model := by
    rw [Optimizer.perform_model]
    exact h.model.perform e

theorem Reachable.settled (h : w.Reachable) : w.Settled := by
  induction h with
  | start s evaluator events memory => exact ⟨rfl, .empty⟩
  | edit e _ ih => exact ih.edit e
  | optimize provider _ hmodel ih => exact ⟨(ih.conducted provider).idle, hmodel⟩
  | elsewhere evaluator events memory _ ih => exact ⟨ih.idle, ih.model⟩

theorem Reachable.optimize_of_discreet (h : w.Reachable) (hdiscreet : provider.Discreet) :
    Reachable (after (Optimizer.optimize provider w)) := by
  refine h.optimize provider ?_
  rw [(h.settled.conducted provider).model hdiscreet]
  exact h.settled.model

/--
After any run of edits and solves, with whatever outcomes, the next solve ends as it should, however
the solver fares: it may return any result, fail, or meet any other fault, also by trying to solve
again. Only a solver that interferes with the optimizer itself can have changed the rest of it.
-/
theorem Reachable.optimize_conducted (h : w.Reachable) (provider : SolverProvider σ) :
    Optimizer.Conducted provider w :=
  h.settled.conducted provider

/-- A plugin whose solvers try to solve again. -/
def reentrant : SolverProvider Unit where
  checkOptions _ _ := .ok ()
  create _ := .ok fun _ => do
    Optimizer.optimize (Session.uniform "Optimal" 1)
    return ⟨"Optimal", 1, .ofList []⟩

theorem reentrant_discreet : reentrant.Discreet := by
  intro s solver hsolver p
  cases hsolver
  exact (Optimizer.discreet_optimize _).bind fun _ => discreet_pure _

theorem response?_reentrant {w : World Unit} {p : Problem}
    (hp : w.optimizer.model.problem = .ok p) :
    Optimizer.response? reentrant (Optimizer.begun w) = some (.error .solveInProgress) := by
  have hbegun : (Optimizer.begun w).optimizer.model.problem = .ok p := hp
  obtain ⟨replaced, hprepared⟩ := Optimizer.prepared_of_problem reentrant hbegun
  have hrefused := Optimizer.optimize_of_inProgress (Session.uniform "Optimal" 1)
    (w := Optimizer.invoked (Optimizer.assembled p replaced (Optimizer.begun w))) rfl
  rw [Optimizer.response?, hprepared]
  show some (resultOf (EStateM.bind (Optimizer.optimize (Session.uniform "Optimal" 1)) _ _)) = _
  rw [EStateM.bind, hrefused]
  rfl

def twoVariables : World Unit :=
  ⟨((Optimizer.ofSettings .default).perform (.addVariables 2)).2, .initial, [], ()⟩

def solvedOnce : World Unit :=
  after (Optimizer.optimize (Session.uniform "Optimal" 7) twoVariables)

/-- The second solve is interrupted by a third one: that is refused, and nothing is left. -/
theorem optimize_conducted_reentrant :
    solvedOnce.optimizer.snapshot = some ⟨"Optimal", 7, [(⟨1⟩, 7), (⟨2⟩, 7)]⟩ ∧
      resultOf (Optimizer.optimize reentrant solvedOnce) = .error .solveInProgress ∧
      (after (Optimizer.optimize reentrant solvedOnce)).optimizer.snapshot = none ∧
      (after (Optimizer.optimize reentrant solvedOnce)).optimizer.inProgress = false ∧
      (after (Optimizer.optimize reentrant solvedOnce)).optimizer.model.vars = [⟨1⟩, ⟨2⟩] := by
  have hquiet := (Session.uniform_quiet "Optimal" 7).discreet
  have h₁ : twoVariables.Reachable := (Reachable.start .default .initial [] ()).edit _
  have h₂ : solvedOnce.Reachable := h₁.optimize_of_discreet hquiet
  have hfirst := h₁.optimize_conducted (Session.uniform "Optimal" 7)
  have hsecond := h₂.optimize_conducted reentrant
  obtain ⟨p, hp⟩ := h₂.settled.model.wellFormed.problem_ok
  have hrefused := hsecond.passed .solveInProgress (response?_reentrant hp) (by simp)
  refine ⟨(hfirst.mapped _ rfl rfl (by decide)).2, hrefused, ?_, hsecond.idle, ?_⟩
  · exact (hsecond.absent reentrant_discreet).2 ⟨_, hrefused⟩
  · rw [hsecond.model reentrant_discreet, solvedOnce, hfirst.model hquiet]
    rfl

end World

end Extremum
