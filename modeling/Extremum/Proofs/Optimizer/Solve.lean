import Extremum.Optimizer.Solve
import Extremum.Proofs.Success

/-!
# The course of a solve

A solve prepares the problem and the solver, calls the solver once, and keeps what became of it. A
discreet solver leaves the optimizer alone meanwhile. With one, a solve changes nothing of an
optimizer but its snapshot, and the snapshot tells how the solve went.
-/

namespace Extremum

variable {σ : Type} {α : Type}

/-- The world in which an action ends. -/
def World.after : EStateM.Result Fault (World σ) α → World σ
  | .ok _ w => w
  | .error _ w => w

theorem eq_ok_of_resultOf {x : EStateM.Result Fault (World σ) α} {a : α}
    (h : resultOf x = .ok a) : x = .ok a (World.after x) := by
  cases x <;> cases h
  rfl

theorem eq_error_of_resultOf {x : EStateM.Result Fault (World σ) α} {fault : Fault}
    (h : resultOf x = .error fault) : x = .error fault (World.after x) := by
  cases x <;> cases h
  rfl

/-- An action that leaves the optimizer alone while a solve is in progress. -/
def World.Discreet (action : WorldM σ α) : Prop :=
  ∀ w, w.optimizer.inProgress = true → (World.after (action w)).optimizer = w.optimizer

/-- All solvers of a plugin are discreet. -/
def SolverProvider.Discreet (provider : SolverProvider σ) : Prop :=
  ∀ s solver, provider.create s = .ok solver → ∀ p, World.Discreet (solver p)

/-- A solver that leaves the optimizer alone at all times. -/
def Solver.Quiet (solver : Solver σ) : Prop :=
  ∀ p w, (World.after (solver p w)).optimizer = w.optimizer

/-- All solvers of a plugin are quiet. -/
def SolverProvider.Quiet (provider : SolverProvider σ) : Prop :=
  ∀ s solver, provider.create s = .ok solver → solver.Quiet

theorem SolverProvider.Quiet.discreet {provider : SolverProvider σ} (h : provider.Quiet) :
    provider.Discreet :=
  fun s solver hsolver p w _ => h s solver hsolver p w

namespace Optimizer

open World

/-! ## Before and after the call of the solver -/

/-- A solve up to the call of the solver. -/
def prepared (provider : SolverProvider σ) : WorldM σ (Problem × Solver σ) := do
  let w ← get
  let (p, replaced) ← MonadExcept.ofExcept w.optimizer.model.assembly
  record (assemblyEvents w.optimizer.model p replaced)
  modify fun w => { w with evaluator := { w.evaluator with resolved := [] } }
  let solver ← MonadExcept.ofExcept (provider.create w.optimizer.settings)
  record [.invoking w.optimizer.settings.method]
  return (p, solver)

def begun (w : World σ) : World σ :=
  { w with optimizer := { w.optimizer with inProgress := true, snapshot := none } }

def ended (w : World σ) : World σ :=
  { w with optimizer := { w.optimizer with inProgress := false } }

/-- The world after the problem of its model was assembled. -/
def assembled (p : Problem) (replaced : List (VariableId × Category)) (w : World σ) : World σ :=
  { w with
    evaluator := { w.evaluator with resolved := [] }
    events := w.events ++ assemblyEvents w.optimizer.model p replaced }

def invoked (w : World σ) : World σ :=
  { w with events := w.events ++ [.invoking w.optimizer.settings.method] }

/-- The result of a solver, if it holds one value for each variable. -/
def accepted (p : Problem) (r : SolverResult) : Except Fault SolverResult :=
  if r.primal.isVector p.variableCount then .ok r
  else
    .error (.solverFailure ("The solver returned " ++ toString r.primal.size ++
      " variable values, expected " ++ toString p.variableCount))

/-- What the solver returns in a solve, if it is called and returns. -/
def answer? (provider : SolverProvider σ) (w : World σ) : Option SolverResult :=
  match prepared provider w with
  | .ok (p, solver) w =>
    match solver p w with
    | .ok r _ => some r
    | .error _ _ => none
  | .error _ _ => none

/-- What is kept of how a solver fared; most faults are passed on instead. -/
def keptOf (ps : Positions) : Except Fault SolverResult → Except Fault Snapshot
  | .ok r => Snapshot.ofResult ps r
  | .error (.solverFailure _) => .ok .failure
  | .error fault => .error fault

/-- The snapshot that a solve leaves, or the fault that it passes on. -/
def outcome (provider : SolverProvider σ) (w : World σ) : Except Fault Snapshot :=
  match prepared provider w with
  | .ok (p, solver) w => keptOf p.evaluator.positions (resultOf (solver p w) >>= accepted p)
  | .error fault _ => .error fault

variable {provider : SolverProvider σ} {w w' : World σ} {p : Problem} {solver : Solver σ}

theorem solveOnce_eq (provider : SolverProvider σ) : solveOnce provider = (do
    let (p, solver) ← prepared provider
    conclude p.evaluator.positions (← attempt (solved solver p))) := by
  simp only [solveOnce, prepared, bind_assoc, pure_bind]

theorem optimize_of_idle (hw : w.optimizer.inProgress = false) : optimize provider w =
    match solveOnce provider (begun w) with
    | .ok () w' => .ok () (ended w')
    | .error fault w' => .error fault (ended w') := by
  have hsteps : optimize provider w = (do
      change fun o => { o with inProgress := true, snapshot := none }
      let outcome ← attempt (solveOnce provider)
      change fun o => { o with inProgress := false }
      MonadExcept.ofExcept outcome : WorldM σ Unit) w := by
    show (if w.optimizer.inProgress = true then _ else _ : WorldM σ Unit) w = _
    rw [if_neg (by simp [hw])]
  rw [hsteps]
  cases h : solveOnce provider (begun w) with
  | ok u w' =>
      have hattempt : attempt (solveOnce provider) (begun w) = .ok (.ok u) w' := by
        simp only [attempt, h]
      show EStateM.bind (attempt (solveOnce provider)) _ (begun w) = _
      rw [EStateM.bind, hattempt]
      rfl
  | error fault w' =>
      have hattempt : attempt (solveOnce provider) (begun w) = .ok (.error fault) w' := by
        simp only [attempt, h]
      show EStateM.bind (attempt (solveOnce provider)) _ (begun w) = _
      rw [EStateM.bind, hattempt]
      rfl

theorem after_optimize (hw : w.optimizer.inProgress = false) :
    World.after (optimize provider w) = ended (World.after (solveOnce provider (begun w))) := by
  rw [optimize_of_idle hw]
  cases solveOnce provider (begun w) <;> rfl

theorem prepared_eq (provider : SolverProvider σ) (w : World σ) : prepared provider w =
    match w.optimizer.model.assembly with
    | .error fault => .error fault w
    | .ok (p, replaced) =>
      match provider.create w.optimizer.settings with
      | .error fault => .error fault (assembled p replaced w)
      | .ok solver => .ok (p, solver) (invoked (assembled p replaced w)) := by
  show EStateM.bind (MonadExcept.ofExcept w.optimizer.model.assembly) _ w = _
  rcases w.optimizer.model.assembly with fault | ⟨p, replaced⟩
  · rfl
  · show EStateM.bind (MonadExcept.ofExcept (provider.create w.optimizer.settings)) _
      (assembled p replaced w) = _
    cases provider.create w.optimizer.settings <;> rfl

theorem prepared_of_problem (provider : SolverProvider σ)
    (hp : w.optimizer.model.problem = .ok p) : ∃ replaced,
    prepared provider w =
      match provider.create w.optimizer.settings with
      | .error fault => .error fault (assembled p replaced w)
      | .ok solver => .ok (p, solver) (invoked (assembled p replaced w)) := by
  obtain ⟨⟨_, replaced⟩, hassembly, rfl⟩ := map_eq_ok.1 hp
  refine ⟨replaced, ?_⟩
  rw [prepared_eq, hassembly]

theorem prepared_cases (provider : SolverProvider σ) (w : World σ) :
    (∃ fault w', prepared provider w = .error fault w' ∧ w'.optimizer = w.optimizer) ∨
      ∃ p solver w', prepared provider w = .ok (p, solver) w' ∧ w'.optimizer = w.optimizer ∧
        w.optimizer.model.problem = .ok p ∧ provider.create w.optimizer.settings = .ok solver := by
  rw [prepared_eq, Model.problem]
  rcases w.optimizer.model.assembly with fault | ⟨p, replaced⟩
  · exact .inl ⟨fault, _, rfl, rfl⟩
  · cases provider.create w.optimizer.settings with
    | error fault => exact .inl ⟨fault, _, rfl, rfl⟩
    | ok solver => exact .inr ⟨p, solver, _, rfl, rfl, rfl, rfl⟩

theorem optimizer_of_prepared (h : prepared provider w = .ok (p, solver) w') :
    w'.optimizer = w.optimizer := by
  rcases prepared_cases provider w with ⟨_, _, hnot, -⟩ | ⟨_, _, _, hprepared, hw', -, -⟩
  · cases h.symm.trans hnot
  · cases h.symm.trans hprepared
    exact hw'

/-! ## The result -/

theorem solved_eq (solver : Solver σ) (p : Problem) (w : World σ) :
    solved solver p w =
      match solver p w with
      | .error fault w' => .error fault w'
      | .ok r w' => (MonadExcept.ofExcept (accepted p r) : WorldM σ SolverResult) w' := by
  show EStateM.bind (solver p) _ w = _
  unfold EStateM.bind accepted
  cases solver p w with
  | error fault w' => rfl
  | ok r w' =>
      dsimp only
      split <;> rfl

theorem attempt_solved_eq (solver : Solver σ) (p : Problem) (w : World σ) :
    attempt (solved solver p) w =
      .ok (resultOf (solver p w) >>= accepted p) (World.after (solver p w)) := by
  unfold attempt
  rw [solved_eq]
  cases solver p w with
  | error fault w' => rfl
  | ok r w' =>
      have hbind : (resultOf (.ok r w' : EStateM.Result Fault (World σ) SolverResult) >>=
        accepted p) = accepted p r := rfl
      rw [hbind]
      dsimp only
      cases accepted p r <;> rfl

theorem accepted_cases (p : Problem) (r : SolverResult) :
    (r.primal.shape = [p.variableCount] ∧ accepted p r = .ok r) ∨
      (r.primal.shape ≠ [p.variableCount] ∧
        ∃ message, accepted p r = .error (.solverFailure message)) := by
  unfold accepted
  split
  · rename_i h
    exact .inl ⟨beq_iff_eq.1 h, rfl⟩
  · rename_i h
    exact .inr ⟨fun hshape => h (beq_iff_eq.2 hshape), _, rfl⟩

theorem conclude_ok (ps : Positions) (r : SolverResult) (w : World σ) : conclude ps (.ok r) w =
    EStateM.bind (MonadExcept.ofExcept (Snapshot.ofResult ps r))
      (fun s => change fun o => { o with snapshot := some s })
      { w with events := w.events ++ [.solverReturned r.status] } := rfl

theorem conclude_eq (ps : Positions) (result : Except Fault SolverResult) (w : World σ) :
    resultOf (conclude ps result w) = (keptOf ps result).map (fun _ => ()) ∧
      (World.after (conclude ps result w)).optimizer = { w.optimizer with
        snapshot := (keptOf ps result).toOption.or w.optimizer.snapshot } := by
  cases result with
  | ok r =>
      have hkept : keptOf ps (.ok r) = Snapshot.ofResult ps r := rfl
      rw [hkept, conclude_ok]
      cases Snapshot.ofResult ps r <;> exact ⟨rfl, rfl⟩
  | error fault => cases fault <;> exact ⟨rfl, rfl⟩

/-! ## All of a solve -/

theorem solveOnce_outcome (provider : SolverProvider σ) (w : World σ) :
    resultOf (solveOnce provider w) = (outcome provider w).map (fun _ => ()) ∧
      ∃ o, (World.after (solveOnce provider w)).optimizer =
          { o with snapshot := (outcome provider w).toOption.or o.snapshot } ∧
        (provider.Discreet → w.optimizer.inProgress = true → o = w.optimizer) := by
  have hsteps : solveOnce provider w = EStateM.bind (prepared provider) (fun (p, solver) =>
      EStateM.bind (attempt (solved solver p)) (conclude p.evaluator.positions)) w := by
    rw [solveOnce_eq]
    rfl
  rw [hsteps, EStateM.bind, outcome]
  rcases prepared_cases provider w with
    ⟨fault, w₁, hprepared, hw₁⟩ | ⟨p, solver, w₁, hprepared, hw₁, -, hsolver⟩
  · rw [hprepared]
    exact ⟨rfl, w₁.optimizer, rfl, fun _ _ => hw₁⟩
  · rw [hprepared]
    dsimp only
    rw [EStateM.bind, attempt_solved_eq]
    obtain ⟨hresult, hafter⟩ := conclude_eq p.evaluator.positions
      (resultOf (solver p w₁) >>= accepted p) (World.after (solver p w₁))
    refine ⟨hresult, _, hafter, fun hdiscreet hw => ?_⟩
    -- a discreet solver keeps the optimizer that it was called with
    exact (hdiscreet _ _ hsolver p w₁ (by rw [hw₁, hw])).trans hw₁

/-- Whatever a solver does to the optimizer, the solve is over in the end, and its outcome kept. -/
theorem optimize_outcome (provider : SolverProvider σ) (hw : w.optimizer.inProgress = false) :
    resultOf (optimize provider w) = (outcome provider (begun w)).map (fun _ => ()) ∧
      ∃ o, (World.after (optimize provider w)).optimizer = { o with
          inProgress := false
          snapshot := (outcome provider (begun w)).toOption.or o.snapshot } ∧
        (provider.Discreet → o = (begun w).optimizer) := by
  obtain ⟨hresult, o, hafter, hkept⟩ := solveOnce_outcome provider (begun w)
  rw [optimize_of_idle hw]
  cases hs : solveOnce provider (begun w) with
  | ok u w' =>
      rw [hs] at hresult hafter
      exact ⟨hresult, o, congrArg ({ · with inProgress := false }) hafter,
        fun hdiscreet => hkept hdiscreet rfl⟩
  | error fault w' =>
      rw [hs] at hresult hafter
      exact ⟨hresult, o, congrArg ({ · with inProgress := false }) hafter,
        fun hdiscreet => hkept hdiscreet rfl⟩

/--
A solve with a discreet solver changes nothing of the optimizer but its snapshot, and there is one
unless a fault is passed on.
-/
theorem optimizer_of_discreet (hdiscreet : provider.Discreet)
    (hw : w.optimizer.inProgress = false) : (World.after (optimize provider w)).optimizer =
      { w.optimizer with snapshot := (outcome provider (begun w)).toOption } := by
  obtain ⟨-, o, hafter, hkept⟩ := optimize_outcome provider hw
  rw [hafter, hkept hdiscreet]
  simp only [begun, Option.or_none, ← hw]

/-- A snapshot is that of a failure, or of the result that the solver returned. -/
theorem outcome_eq_ok {s : Snapshot} (h : outcome provider w = .ok s) :
    s = .failure ∨ ∃ p r, w.optimizer.model.problem = .ok p ∧ answer? provider w = some r ∧
      r.primal.shape = [p.variableCount] ∧ Snapshot.ofResult p.evaluator.positions r = .ok s := by
  have hfailure : ∀ {ps fault}, keptOf ps (.error fault) = .ok s → s = .failure := by
    intro ps fault h
    cases fault <;> cases h
    rfl
  rcases prepared_cases provider w with
    ⟨fault, w₁, hprepared, -⟩ | ⟨p, solver, w₁, hprepared, -, hp, -⟩
  · rw [outcome, hprepared] at h
    cases h
  · rw [outcome, hprepared] at h
    dsimp only at h
    cases hs : solver p w₁ with
    | error fault w₂ =>
        rw [hs] at h
        exact .inl (hfailure h)
    | ok r w₂ =>
        rw [hs] at h
        have h : keptOf p.evaluator.positions (accepted p r) = .ok s := h
        rcases accepted_cases p r with ⟨hshape, haccepted⟩ | ⟨-, message, haccepted⟩
        · rw [haccepted] at h
          exact .inr ⟨p, r, hp, by simp only [answer?, hprepared, hs], hshape, h⟩
        · rw [haccepted] at h
          exact .inl (hfailure h)

/--
How a solve with a quiet solver ends: with a fault, with the snapshot of a failure, or with that of
the result that the solver returned. Nothing else of the optimizer changes.
-/
theorem optimize_cases (hquiet : provider.Quiet) (hw : w.optimizer.inProgress = false) :
    (∃ fault w', optimize provider w = .error fault w' ∧
      w'.optimizer = { w.optimizer with snapshot := none }) ∨
    (∃ w', optimize provider w = .ok () w' ∧
      w'.optimizer = { w.optimizer with snapshot := some .failure }) ∨
    ∃ p r s w', w.optimizer.model.problem = .ok p ∧ answer? provider (begun w) = some r ∧
      r.primal.shape = [p.variableCount] ∧ Snapshot.ofResult p.evaluator.positions r = .ok s ∧
      optimize provider w = .ok () w' ∧
      w'.optimizer = { w.optimizer with snapshot := some s } := by
  have hresult := (optimize_outcome provider hw).1
  have hafter := optimizer_of_discreet hquiet.discreet hw
  cases houtcome : outcome provider (begun w) with
  | error fault =>
      rw [houtcome] at hresult hafter
      exact .inl ⟨fault, _, eq_error_of_resultOf hresult, hafter⟩
  | ok s =>
      rw [houtcome] at hresult hafter
      rcases outcome_eq_ok houtcome with rfl | ⟨p, r, hp, hanswer, hshape, hs⟩
      · exact .inr (.inl ⟨_, eq_ok_of_resultOf hresult, hafter⟩)
      · exact .inr (.inr ⟨p, r, s, _, hp, hanswer, hshape, hs, eq_ok_of_resultOf hresult, hafter⟩)

end Optimizer

end Extremum
