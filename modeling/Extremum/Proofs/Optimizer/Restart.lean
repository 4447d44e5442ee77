import Extremum.Proofs.Model.Numbering
import Extremum.Proofs.Optimizer.Interference
import Extremum.Proofs.Plugin.Registration

/-!
# Starting over

An optimizer that is emptied keeps its settings and its plugin, and nothing else. What is done with
it from then on comes out as with a new optimizer. If it is emptied while a solve is in progress,
other solves are still refused, and all else comes out as with a new optimizer on which these solves
are left out.
-/

namespace Extremum

variable {σ α : Type}

/-! ## Operations and their answers -/

/-- What is done with an optimizer from some moment on. -/
inductive Operation (σ α : Type) where
  | edit (e : Edit)
  /-- A query does not tell whether a solve is in progress. -/
  | query (read : Optimizer → α)
      (blind : ∀ (o : Optimizer) (busy : Bool), read { o with inProgress := busy } = read o)
  | optimize
  /-- What belongs to the solver changes. -/
  | elsewhere (change : σ → σ)

/-- What comes of an operation. -/
inductive Answer (α : Type) where
  /-- The outcome of an edit, with the identifiers that are returned. -/
  | edited (outcome : Except Fault Unit) (vars : List VariableId) (ids : List ConstraintId)
  | found (a : α)
  /-- The outcome of a solve, with the problem that the solver is called for. -/
  | solved (outcome : Except Fault Unit) (problem : Option Problem)
  | nothing

def Operation.isSolve : Operation σ α → Bool
  | optimize => true
  | _ => false

def Answer.isSolve : Answer α → Bool
  | solved .. => true
  | _ => false

/-- The answer to a solve while another one is in progress. -/
def Answer.refusal : Answer α := .solved (.error .solveInProgress) none

/-- The solvers of a plugin cannot change the settings of an optimizer. -/
def SolverProvider.KeepsSettings (provider : SolverProvider σ) : Prop :=
  ∀ s solver, provider.create s = .ok solver → ∀ p w, w.optimizer.inProgress = true →
    (World.after (solver p w)).optimizer.settings = w.optimizer.settings

namespace World

open Optimizer

variable {registry registry' : Registry (SolverProvider σ)} {provider : SolverProvider σ}
  {s : Settings} {w : World σ}

/-- The problem that the solver is called for in a solve, if it is called. -/
def problem? (provider : SolverProvider σ) (w : World σ) : Option Problem :=
  if w.optimizer.inProgress then none
  else
    match prepared provider (begun w) with
    | .ok (p, _) _ => some p
    | .error _ _ => none

/-- The answer to an operation, and the world after it. -/
def operate (provider : SolverProvider σ) (w : World σ) : Operation σ α → Answer α × World σ
  | .edit e =>
    (.edited (w.optimizer.perform e).1 (w.optimizer.model.variablesIssuedBy e)
      (w.optimizer.model.constraintsIssuedBy e),
      { w with optimizer := (w.optimizer.perform e).2 })
  | .query read _ => (.found (read w.optimizer), w)
  | .optimize =>
    (.solved (resultOf (Optimizer.optimize provider w)) (problem? provider w),
      after (Optimizer.optimize provider w))
  | .elsewhere change => (.nothing, { w with memory := change w.memory })

/-- The answers to operations, one after another, and the world after all of them. -/
def operateAll (provider : SolverProvider σ) (w : World σ) :
    List (Operation σ α) → List (Answer α) × World σ
  | [] => ([], w)
  | c :: cs =>
    let (answer, w) := operate provider w c
    let (answers, w) := operateAll provider w cs
    (answer :: answers, w)

/-- The worlds that an optimizer lives through, between solves and while one is in progress. -/
inductive Lived (registry : Registry (SolverProvider σ)) (provider : SolverProvider σ)
    (s : Settings) : World σ → Prop where
  | create {o : Optimizer} (evaluator : EvaluatorState) (events : List Event) (memory : σ) :
    Optimizer.create registry s = .ok (o, provider) →
      Lived registry provider s ⟨o, evaluator, events, memory⟩
  | edit {w : World σ} (e : Edit) : Lived registry provider s w →
      Lived registry provider s { w with optimizer := (w.optimizer.perform e).2 }
  | optimize {w : World σ} : Lived registry provider s w →
      Lived registry provider s (after (Optimizer.optimize provider w))
  /-- The solver is called. -/
  | call {w w' : World σ} {p : Problem} {solver : Solver σ} : Lived registry provider s w →
      w.optimizer.inProgress = false → prepared provider (begun w) = .ok (p, solver) w' →
      Lived registry provider s w'
  | elsewhere {w : World σ} (evaluator : EvaluatorState) (events : List Event) (memory : σ) :
    Lived registry provider s w → Lived registry provider s ⟨w.optimizer, evaluator, events, memory⟩

/-- The world after the optimizer is emptied. -/
def emptied (w : World σ) : World σ := { w with optimizer := w.optimizer.empty }

/-- The world with a new optimizer in place of the one that is there. -/
def renewed (s : Settings) (w : World σ) : World σ := { w with optimizer := .ofSettings s }

/-- The world while a solve is in progress. -/
def busy (w : World σ) : World σ :=
  { w with optimizer := { w.optimizer with inProgress := true } }

/-! ## Settings and plugin -/

theorem create_eq_ok {o : Optimizer} : Optimizer.create registry s = .ok (o, provider) ↔
    registry.plugin Registry.solverType s.method = .ok provider ∧
      provider.checkOptions s.method s.options = .ok () ∧ .ofSettings s = o := by
  simp only [Optimizer.create, bind_eq_ok, pure_eq_ok, Prod.mk.injEq]
  constructor
  · rintro ⟨provider', hplugin, _, hcheck, ho, rfl⟩
    exact ⟨hplugin, hcheck, ho⟩
  · rintro ⟨hplugin, hcheck, ho⟩
    exact ⟨provider, hplugin, (), hcheck, ho, rfl⟩

theorem settings_solveOnce (hprovider : provider.KeepsSettings)
    (hw : w.optimizer.inProgress = true) :
    (after (solveOnce provider w)).optimizer.settings = w.optimizer.settings := by
  rw [solveOnce_eq]
  rcases prepared_cases provider w with
    ⟨fault, w₁, hprepared, hw₁⟩ | ⟨p, solver, w₁, hprepared, hw₁, -, hsolver⟩
  · rw [action_bind_of_error hprepared]
    exact congrArg Optimizer.settings hw₁
  · rw [action_bind_of_ok hprepared]
    dsimp only
    rw [action_bind_of_ok (attempt_solved_eq solver p w₁), (conclude_eq _ _ _).2]
    have hkept := hprovider _ _ hsolver p w₁ (by rw [hw₁, hw])
    rw [hw₁] at hkept
    exact hkept

theorem settings_optimize (hprovider : provider.KeepsSettings) (w : World σ) :
    (after (Optimizer.optimize provider w)).optimizer.settings = w.optimizer.settings := by
  cases hw : w.optimizer.inProgress with
  | true =>
      rw [optimize_of_inProgress provider hw]
      rfl
  | false =>
      rw [after_optimize hw]
      exact settings_solveOnce (w := begun w) hprovider rfl

theorem Lived.settings_eq (hprovider : provider.KeepsSettings) (h : Lived registry provider s w) :
    w.optimizer.settings = s := by
  induction h with
  | create evaluator events memory ho =>
      obtain ⟨-, -, rfl⟩ := create_eq_ok.1 ho
      rfl
  | @edit w e _ ih =>
      have hsettings : (w.optimizer.perform e).2.settings = w.optimizer.settings := by
        rw [perform_eq]
        rfl
      exact hsettings.trans ih
  | optimize _ ih => exact (settings_optimize hprovider _).trans ih
  | call _ _ hprepared ih =>
      rw [optimizer_of_prepared hprepared]
      exact ih
  | elsewhere evaluator events memory _ ih => exact ih

theorem Lived.create_eq (h : Lived registry provider s w)
    (hplugin : registry'.plugin Registry.solverType s.method = .ok provider) :
    Optimizer.create registry' s = .ok (.ofSettings s, provider) := by
  induction h with
  | create evaluator events memory ho =>
      obtain ⟨-, hcheck, -⟩ := create_eq_ok.1 ho
      exact create_eq_ok.2 ⟨hplugin, hcheck, rfl⟩
  | edit _ _ ih | optimize _ ih | call _ _ _ ih | elsewhere _ _ _ _ ih => exact ih

/-! ## While a solve is in progress -/

theorem perform_busy (o : Optimizer) (e : Edit) :
    ({ o with inProgress := true } : Optimizer).perform e =
      ((o.perform e).1, { (o.perform e).2 with inProgress := true }) := by
  rw [perform_eq, perform_eq]
  rfl

theorem operate_busy_of_solve {c : Operation σ α} (hc : c.isSolve = true) (w : World σ) :
    operate provider (busy w) c = (.refusal, busy w) := by
  cases c with
  | optimize =>
      have hrefused := optimize_of_inProgress provider (w := busy w) rfl
      rw [operate, hrefused]
      rfl
  | edit | query | elsewhere => cases hc

theorem operate_busy {c : Operation σ α} (hc : c.isSolve = false) (w : World σ) :
    operate provider (busy w) c =
      ((operate provider w c).1, busy (operate provider w c).2) := by
  cases c with
  | edit e =>
      have he := perform_busy w.optimizer e
      simp only [operate, busy, he]
  | query read blind => exact Prod.ext (congrArg Answer.found (blind w.optimizer true)) rfl
  | elsewhere change => rfl
  | optimize => cases hc

/-- Solves are refused, and all other operations do what they do without these solves. -/
theorem operateAll_busy (cs : List (Operation σ α)) (w : World σ) :
    (∀ a ∈ (operateAll provider (busy w) cs).1, a.isSolve = true → a = .refusal) ∧
      (operateAll provider (busy w) cs).1.filter (!·.isSolve) =
        (operateAll provider w (cs.filter (!·.isSolve))).1 ∧
      (operateAll provider (busy w) cs).2 =
        busy (operateAll provider w (cs.filter (!·.isSolve))).2 := by
  induction cs generalizing w with
  | nil => exact ⟨by simp [operateAll], rfl, rfl⟩
  | cons c cs ih =>
      cases hc : c.isSolve with
      | true =>
          obtain ⟨hrefused, hothers, hend⟩ := ih w
          have hleft : (c :: cs).filter (!·.isSolve) = cs.filter (!·.isSolve) :=
            List.filter_cons_of_neg (by simp [hc])
          rw [hleft]
          simp only [operateAll, operate_busy_of_solve hc]
          exact ⟨List.forall_mem_cons.2 ⟨fun _ => rfl, hrefused⟩, hothers, hend⟩
      | false =>
          obtain ⟨hrefused, hothers, hend⟩ := ih (operate provider w c).2
          have hkept : (c :: cs).filter (!·.isSolve) = c :: cs.filter (!·.isSolve) :=
            List.filter_cons_of_pos (by simp [hc])
          have hanswer : (operate provider w c).1.isSolve = false := by
            cases c <;> first | rfl | cases hc
          rw [hkept]
          simp only [operateAll, operate_busy hc]
          refine ⟨List.forall_mem_cons.2 ⟨fun h => ?_, hrefused⟩, ?_, hend⟩
          · rw [hanswer] at h
            cases h
          · rw [List.filter_cons_of_pos (by simp [hanswer]), hothers]

/-! ## After the optimizer is emptied -/

/-- An emptied optimizer does what a new one does. -/
structure StartsOver (registry : Registry (SolverProvider σ)) (provider : SolverProvider σ)
    (s : Settings) (w : World σ) (cs : List (Operation σ α)) : Prop where
  /-- With the same settings, the new one has the same plugin if that is still selected. -/
  create : registry.plugin Registry.solverType s.method = .ok provider →
    Optimizer.create registry s = .ok (.ofSettings s, provider)
  settings : (emptied w).optimizer.settings = s
  /-- Between solves there is no difference. -/
  idle : w.optimizer.inProgress = false →
    operateAll provider (emptied w) cs = operateAll provider (renewed s w) cs
  /-- While a solve is in progress, all others are refused. -/
  refused : w.optimizer.inProgress = true →
    ∀ a ∈ (operateAll provider (emptied w) cs).1, a.isSolve = true → a = .refusal
  /-- Nothing else differs from what a new optimizer does without these solves. -/
  others : w.optimizer.inProgress = true →
    (operateAll provider (emptied w) cs).1.filter (!·.isSolve) =
        (operateAll provider (renewed s w) (cs.filter (!·.isSolve))).1 ∧
      (operateAll provider (emptied w) cs).2 =
        busy (operateAll provider (renewed s w) (cs.filter (!·.isSolve))).2

theorem emptied_eq (hs : w.optimizer.settings = s) :
    emptied w = if w.optimizer.inProgress then busy (renewed s w) else renewed s w := by
  obtain ⟨⟨settings, model, snapshot, inProgress⟩, evaluator, events, memory⟩ := w
  cases hs
  cases inProgress <;> rfl

/--
At every moment, an optimizer that is emptied starts over: whatever follows comes out as with a new
optimizer that has the same settings and the same plugin.
-/
theorem Lived.starts_over (hprovider : provider.KeepsSettings)
    (h : Lived registry provider s w) (registry' : Registry (SolverProvider σ))
    (cs : List (Operation σ α)) : StartsOver registry' provider s w cs := by
  have hs := h.settings_eq hprovider
  have hemptied := emptied_eq hs
  refine ⟨h.create_eq, hs, fun hidle => ?_, fun hbusy => ?_, fun hbusy => ?_⟩
  · rw [hemptied, hidle]
    rfl
  · rw [hemptied, if_pos hbusy]
    exact (operateAll_busy cs _).1
  · rw [hemptied, if_pos hbusy]
    exact (operateAll_busy cs _).2

/-- Its solvers empty the optimizer and add a variable to it. -/
def emptying : SolverProvider Unit := meddling [.empty, .addVariable] "Optimal" 4

theorem emptying_keepsSettings : emptying.KeepsSettings := by
  intro s solver hsolver p w _
  cases hsolver
  rfl

def emptyingRegistry : Registry (SolverProvider Unit) :=
  ⟨[("scipy", Registry.offering ["default"] true emptying)]⟩

/-- A new optimizer with two variables. -/
def usedWorld : World Unit :=
  ⟨((ofSettings .default).perform (.addVariables 2)).2, .initial, [], ()⟩

theorem lived_usedWorld : Lived emptyingRegistry emptying .default usedWorld :=
  .edit (.addVariables 2) (.create .initial [] () (create_eq_ok.2 ⟨rfl, rfl, rfl⟩))

/-- The same optimizer when the solver is called. -/
def calledWorld : World Unit :=
  match prepared emptying (begun usedWorld) with
  | .ok _ w => w
  | .error _ w => w

theorem lived_calledWorld : Lived emptyingRegistry emptying .default calledWorld :=
  .call lived_usedWorld rfl rfl

/-- The same optimizer after the solve, with the point for both variables and with only one left. -/
def solvedWorld : World Unit := after (Optimizer.optimize emptying usedWorld)

/-- What to do with a new optimizer. -/
def firstSolve : List (Operation Unit Nat) :=
  [.edit .addVariable, .optimize, .query (·.resultCount) fun _ _ => rfl]

theorem starts_over_emptying : solvedWorld.optimizer.resultCount = 1 ∧
    (∃ p, Model.empty.addVariable.2.problem = .ok p ∧
      (operateAll emptying (emptied solvedWorld) firstSolve).1 =
        [.edited (.ok ()) [⟨1⟩] [], .solved (.ok ()) (some p), .found 1]) ∧
    (operateAll emptying (emptied calledWorld) firstSolve).1.filter (!·.isSolve) =
      [.edited (.ok ()) [⟨1⟩] [], .found 0] := by
  have hsolved := lived_usedWorld.optimize.starts_over emptying_keepsSettings emptyingRegistry
    firstSolve
  have hcalled := lived_calledWorld.starts_over emptying_keepsSettings emptyingRegistry firstSolve
  refine ⟨rfl, ⟨_, rfl, ?_⟩, ?_⟩
  · exact (congrArg Prod.fst (hsolved.idle rfl)).trans rfl
  · exact (hcalled.others rfl).1.trans rfl

/-- While the solver runs, an emptied optimizer refuses a solve that a new one makes. -/
theorem not_starts_over_called : Lived emptyingRegistry emptying .default calledWorld ∧
    Optimizer.create emptyingRegistry .default = .ok (.ofSettings .default, emptying) ∧
    (operateAll emptying (emptied calledWorld) firstSolve).1 =
      [.edited (.ok ()) [⟨1⟩] [], .refusal, .found 0] ∧
    ∃ p, (operateAll emptying (renewed .default calledWorld) firstSolve).1 =
      [.edited (.ok ()) [⟨1⟩] [], .solved (.ok ()) (some p), .found 1] :=
  ⟨lived_calledWorld, lived_calledWorld.create_eq rfl, rfl, _, rfl⟩

end World

end Extremum
