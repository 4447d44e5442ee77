import Extremum.Proofs.Expr.Polynomial
import Extremum.Proofs.Numeric.Inquiry
import Extremum.Proofs.Numeric.Provider
import Extremum.Proofs.Numeric.Verdict
import Extremum.Proofs.Optimizer.Conduct
import Extremum.Proofs.Problem.Values

/-!
# What an optimizer asks a nonlinear evaluator

All questions of a solve come from the solver, while the problem is compiled. They are determined by
the model and by what the nonlinear evaluator answers, whatever the minimizer does.
-/

namespace Extremum

namespace Model

variable {m : Model} {p : Problem}

theorem exists_compile_objective (hp : m.problem = .ok p) {e : Expr}
    (he : p.evaluator.objective = some e) : ∃ g, e.compile = .ok g := by
  obtain ⟨ps, rows, objective, -, -, hobjective, hu, -⟩ := evaluator_of_problem hp
  rw [hu] at he
  rcases objectiveExpression_cases hobjective with ⟨-, e', he', rfl⟩ | ⟨-, rfl⟩
  · cases he
    rw [Expr.ofFunction_eq] at he'
    obtain ⟨-, rfl⟩ := Positions.unlessMissing_eq_ok.1 he'
    exact Expr.exists_compile_polynomial ps.index m.objective
  · cases he

theorem inner_of_problem (hp : m.problem = .ok p) : p.evaluator.inner = m.block := by
  obtain ⟨ps, rows, objective, -, -, -, hu, -⟩ := evaluator_of_problem hp
  rw [hu]
  rfl

/-- The objective of a block is needed if it is offered and the model has none. -/
theorem lacksObjective_iff (hp : m.problem = .ok p) (block : NonlinearBlock) :
    p.evaluator.lacksObjective block = true ↔ ¬ m.HasObjective ∧ block.hasObjective = true := by
  obtain ⟨ps, rows, objective, -, -, hobjective, hu, -⟩ := evaluator_of_problem hp
  have hlacks : p.evaluator.lacksObjective block = (objective.isNone && block.hasObjective) := by
    rw [hu]
    rfl
  rcases objectiveExpression_cases hobjective with ⟨hhas, e, -, rfl⟩ | ⟨hnone, rfl⟩
  · simp [hlacks, hhas]
  · simp [hlacks, hnone]

end Model

namespace Optimizer

open World

variable {σ : Type} {provider : SolverProvider σ} {w w' : World σ}

theorem evaluator_conclude (ps : Positions) (result : Except Fault SolverResult) (w : World σ) :
    (after (conclude ps result w)).evaluator = w.evaluator := by
  cases result with
  | ok r =>
      rw [conclude_ok]
      cases Snapshot.ofResult ps r <;> rfl
  | error fault => cases fault <;> rfl

/-- The evaluator is asked only by the solver. -/
theorem evaluator_solveOnce_of_ok {p : Problem} {solver : Solver σ}
    (h : prepared provider w = .ok (p, solver) w') :
    (after (solveOnce provider w)).evaluator = (after (solver p w')).evaluator := by
  rw [solveOnce_eq, action_bind_of_ok h]
  dsimp only
  rw [action_bind_of_ok (attempt_solved_eq solver p w')]
  apply evaluator_conclude

theorem evaluator_solveOnce_of_error {fault : Fault} (h : prepared provider w = .error fault w') :
    (after (solveOnce provider w)).evaluator = w'.evaluator := by
  rw [solveOnce_eq, action_bind_of_error h]
  rfl

/-- A solve ends in a fault: it is passed on, unless it is a failure of the solver. -/
def EndsIn (provider : SolverProvider σ) (w : World σ) : Fault → Prop
  | .solverFailure _ => resultOf (optimize provider w) = .ok () ∧
      (after (optimize provider w)).optimizer.snapshot = some .failure
  | fault => resultOf (optimize provider w) = .error fault

theorem Conducted.endsIn {fault : Fault} (h : Conducted provider w)
    (hresponse : response? provider (begun w) = some (.error fault)) :
    EndsIn provider w fault := by
  cases fault with
  | solverFailure message => exact h.failed message hresponse
  | _ => exact h.passed _ hresponse nofun

theorem evaluator_optimize (hw : w.optimizer.inProgress = false) :
    (after (optimize provider w)).evaluator = (after (solveOnce provider (begun w))).evaluator := by
  rw [after_optimize hw]
  rfl

end Optimizer

namespace Numeric

open World

variable {σ : Type} {minimizer : Minimizer} {keep : Exchange → σ → σ} {w : World σ} {p : Problem}
  {m : Method} {block : NonlinearBlock}

/-! ## Calls -/

theorem evaluator_embedded (action : SolveM SolverResult) (w : World σ) :
    (after (embedded keep action w)).evaluator =
      evaluatorAfter (action ⟨w.evaluator, [], none⟩) := by
  unfold embedded
  cases action ⟨w.evaluator, [], none⟩ <;> rfl

theorem resultOf_embedded (action : SolveM SolverResult) (w : World σ) :
    resultOf (embedded keep action w) = resultOf (action ⟨w.evaluator, [], none⟩) := by
  unfold embedded
  cases action ⟨w.evaluator, [], none⟩ <;> rfl

variable (minimizer keep)

theorem create_of_ofText {s : Settings} (hm : Method.ofText s.method = .ok m) :
    (provider minimizer keep).create s = .ok fun p => embedded keep (solve s m minimizer p) :=
  bind_eq_ok.2 ⟨m, hm, rfl⟩

theorem create_of_ofText_error {s : Settings} {fault : Fault}
    (hm : Method.ofText s.method = .error fault) :
    (provider minimizer keep).create s = .error fault :=
  bind_eq_error.2 (.inl hm)

theorem prepared_of_method (hp : w.optimizer.model.problem = .ok p)
    (hm : Method.ofText w.optimizer.settings.method = .ok m) : ∃ replaced,
    Optimizer.prepared (provider minimizer keep) w =
      .ok (p, fun p => embedded keep (solve w.optimizer.settings m minimizer p))
        (Optimizer.invoked (Optimizer.assembled p replaced w)) := by
  obtain ⟨replaced, hprepared⟩ := Optimizer.prepared_of_problem (provider minimizer keep) hp
  refine ⟨replaced, ?_⟩
  rw [hprepared, create_of_ofText minimizer keep hm]

theorem prepared_of_error {fault : Fault} (hp : w.optimizer.model.problem = .ok p)
    (hm : Method.ofText w.optimizer.settings.method = .error fault) : ∃ replaced,
    Optimizer.prepared (provider minimizer keep) w =
      .error fault (Optimizer.assembled p replaced w) := by
  obtain ⟨replaced, hprepared⟩ := Optimizer.prepared_of_problem (provider minimizer keep) hp
  refine ⟨replaced, ?_⟩
  rw [hprepared, create_of_ofText_error minimizer keep hm]

/-- All questions are put in the one solve, which begins with nothing resolved. -/
theorem evaluator_optimize_of_method (hw : w.optimizer.inProgress = false)
    (hp : w.optimizer.model.problem = .ok p)
    (hm : Method.ofText w.optimizer.settings.method = .ok m) :
    (after (Optimizer.optimize (provider minimizer keep) w)).evaluator =
      evaluatorAfter (solve w.optimizer.settings m minimizer p
        ⟨⟨[], w.evaluator.calls⟩, [], none⟩) := by
  obtain ⟨replaced, hprepared⟩ := prepared_of_method (w := Optimizer.begun w) minimizer keep hp hm
  rw [Optimizer.evaluator_optimize hw, Optimizer.evaluator_solveOnce_of_ok hprepared]
  apply evaluator_embedded

theorem calls_optimize_of_error {fault : Fault} (hw : w.optimizer.inProgress = false)
    (hp : w.optimizer.model.problem = .ok p)
    (hm : Method.ofText w.optimizer.settings.method = .error fault) :
    (after (Optimizer.optimize (provider minimizer keep) w)).evaluator.calls =
      w.evaluator.calls := by
  obtain ⟨replaced, hprepared⟩ := prepared_of_error (w := Optimizer.begun w) minimizer keep hp hm
  rw [Optimizer.evaluator_optimize hw, Optimizer.evaluator_solveOnce_of_error hprepared]
  rfl

/-! ## The protocol -/

/--
What a solve asks the nonlinear evaluator of a block, in order, after all that was asked before.
-/
structure FollowsProtocol (minimizer : Minimizer) (keep : Exchange → σ → σ) (w : World σ)
    (p : Problem) (m : Method) (block : NonlinearBlock) : Prop where
  /-- A problem that does not pass the checks leads to no question. -/
  refused : ∀ fault, (m.checkFeatures p = .error fault ∨ checkedBounds m p = .error fault) →
    (after (Optimizer.optimize (provider minimizer keep) w)).evaluator.calls = w.evaluator.calls
  /--
  Else each question is put once and in order: the evaluator is asked to prepare, for its features,
  and for the objective and the constraints that are needed. An answer that is of no use ends the
  questions, be it a fault or an expression that cannot be resolved or compiled.
  -/
  asked : ∀ b, m.checkFeatures p = .ok () → checkedBounds m p = .ok b →
    (after (Optimizer.optimize (provider minimizer keep) w)).evaluator.calls =
      w.evaluator.calls ++ block.evaluator.callsFor
        (upToFailure (p.evaluator.isAnswered block.evaluator) (p.evaluator.questions block))
  /-- If the evaluator cannot prepare, or tell its features, then the solve ends in its fault. -/
  unoffered : ∀ b fault, m.checkFeatures p = .ok () → checkedBounds m p = .ok b →
    block.evaluator.offered = .error fault → Optimizer.EndsIn (provider minimizer keep) w fault
  /-- Without expression graphs, no expression is asked for, and the solve fails. -/
  withheld : ∀ b names, m.checkFeatures p = .ok () → checkedBounds m p = .ok b →
    block.evaluator.offered = .ok names → expressionGraphs ∉ names →
      (after (Optimizer.optimize (provider minimizer keep) w)).evaluator.calls =
          w.evaluator.calls ++
            block.evaluator.callsFor [.prepare [expressionGraphs], .features] ∧
        resultOf (Optimizer.optimize (provider minimizer keep) w) = .ok () ∧
        (after (Optimizer.optimize (provider minimizer keep) w)).optimizer.snapshot = some .failure
  /-- With them, each expression that is needed is asked for, up to the first one of no use. -/
  granted : ∀ b names, m.checkFeatures p = .ok () → checkedBounds m p = .ok b →
    block.evaluator.offered = .ok names → expressionGraphs ∈ names →
      (after (Optimizer.optimize (provider minimizer keep) w)).evaluator.calls =
        w.evaluator.calls ++ block.evaluator.callsFor
          (.prepare [expressionGraphs] :: .features ::
            (upToFailure (p.evaluator.isUsable block.evaluator)
              (p.evaluator.neededIndices block)).map UnifiedEvaluator.questionFor)
  /-- The objective is needed if the block has one and the model has none of its own. -/
  objective : p.evaluator.lacksObjective block = true ↔
    ¬ w.optimizer.model.HasObjective ∧ block.hasObjective = true
  /-- The minimizer is run after everything that can be asked, and nothing is asked from then on. -/
  order : solve w.optimizer.settings m minimizer p =
      (compiling m p >>= fun (b, f) => running w.optimizer.settings m minimizer p b f) ∧
    (∀ st, exchangeAfter (compiling m p st) = st.exchange) ∧
      ∀ b f, AsksNothing (running w.optimizer.settings m minimizer p b f)

theorem response?_of_method (hp : w.optimizer.model.problem = .ok p)
    (hm : Method.ofText w.optimizer.settings.method = .ok m) :
    Optimizer.response? (provider minimizer keep) (Optimizer.begun w) =
      some (resultOf (solve w.optimizer.settings m minimizer p
        ⟨⟨[], w.evaluator.calls⟩, [], none⟩)) := by
  obtain ⟨replaced, hprepared⟩ := prepared_of_method (w := Optimizer.begun w) minimizer keep hp hm
  rw [Optimizer.response?, hprepared]
  exact congrArg some (resultOf_embedded _ _)

theorem followsProtocol (hw : w.optimizer.inProgress = false)
    (hp : w.optimizer.model.problem = .ok p)
    (hm : Method.ofText w.optimizer.settings.method = .ok m)
    (hblock : w.optimizer.model.block = some block) :
    FollowsProtocol minimizer keep w p m block := by
  have hevaluator := evaluator_optimize_of_method minimizer keep hw hp hm
  have hb : p.evaluator.inner = some block := (Model.inner_of_problem hp).trans hblock
  have hconducted := Optimizer.conducted (provider minimizer keep) hw hp
  have hasked {b : VariableBounds} (hfeatures : m.checkFeatures p = .ok ())
      (hbounds : checkedBounds m p = .ok b) :
      (after (Optimizer.optimize (provider minimizer keep) w)).evaluator.calls =
        w.evaluator.calls ++ block.evaluator.callsFor
          (upToFailure (p.evaluator.isAnswered block.evaluator) (p.evaluator.questions block)) := by
    rw [hevaluator, evaluatorAfter_of_checks hfeatures hbounds]
    exact calls_functions hb rfl fun _ => Model.exists_compile_objective hp
  -- a fault of the functions is how the solver fares
  have hresponse {b : VariableBounds} {fault : Fault} (hfeatures : m.checkFeatures p = .ok ())
      (hbounds : checkedBounds m p = .ok b)
      (hfunctions : resultOf (functions p ⟨[], w.evaluator.calls⟩) = .error fault) :
      Optimizer.response? (provider minimizer keep) (Optimizer.begun w) =
        some (.error fault) := by
    rw [response?_of_method minimizer keep hp hm]
    exact congrArg some (resultOf_of_uncompiled _ _ hfeatures hbounds hfunctions)
  refine ⟨fun fault h => ?_, fun b => hasked, fun b fault hfeatures hbounds hfault => ?_,
    fun b names hfeatures hbounds hnames hoffered => ⟨?_, ?_⟩,
    fun b names hfeatures hbounds hnames hoffered => ?_, Model.lacksObjective_iff hp block,
    solve_eq _ _ _ _, exchangeAfter_compiling m p, asksNothing_running _ _ _ _⟩
  · rw [hevaluator, evaluatorAfter_of_refused h]
  · exact hconducted.endsIn (hresponse hfeatures hbounds (functions_of_unoffered hb hfault _))
  · rw [hasked hfeatures hbounds, upToFailure_questions_of_withheld hnames hoffered]
    rfl
  · have hfunctions := functions_of_withheld hb hnames hoffered ⟨[], w.evaluator.calls⟩
    exact hconducted.failed _ (hresponse hfeatures hbounds (congrArg resultOf hfunctions))
  · rw [hasked hfeatures hbounds, upToFailure_questions hnames hoffered]
    rfl

theorem calls_optimize_of_local (hw : w.optimizer.inProgress = false)
    (hp : w.optimizer.model.problem = .ok p) (hblock : w.optimizer.model.block = none) :
    (after (Optimizer.optimize (provider minimizer keep) w)).evaluator.calls =
      w.evaluator.calls := by
  cases hm : Method.ofText w.optimizer.settings.method with
  | error fault => exact calls_optimize_of_error minimizer keep hw hp hm
  | ok m =>
      have hb : p.evaluator.inner = none := (Model.inner_of_problem hp).trans hblock
      rw [evaluator_optimize_of_method minimizer keep hw hp hm]
      cases hfeatures : m.checkFeatures p with
      | error fault => rw [evaluatorAfter_of_refused (.inl hfeatures)]
      | ok u =>
          cases hbounds : checkedBounds m p with
          | error fault => rw [evaluatorAfter_of_refused (.inr hbounds)]
          | ok b => rw [evaluatorAfter_of_checks hfeatures hbounds, after_functions_of_local hb]

/--
In every solve of a model that edits lead to, a nonlinear evaluator is asked as it should be,
however it answers. It is asked nothing in a solve that is refused or has no method, or if there is
no nonlinear block.
-/
theorem followsProtocol_optimize (h : w.optimizer.model.Reachable) :
    ∃ p, w.optimizer.model.problem = .ok p ∧
      (w.optimizer.inProgress = true ∨ w.optimizer.model.block = none ∨
          (∃ fault, Method.ofText w.optimizer.settings.method = .error fault) →
        (after (Optimizer.optimize (provider minimizer keep) w)).evaluator.calls =
          w.evaluator.calls) ∧
      ∀ m block, w.optimizer.inProgress = false →
        Method.ofText w.optimizer.settings.method = .ok m →
        w.optimizer.model.block = some block → FollowsProtocol minimizer keep w p m block := by
  obtain ⟨p, hp⟩ := h.wellFormed.problem_ok
  refine ⟨p, hp, fun hquiet => ?_, fun m block hw hm hblock =>
    followsProtocol minimizer keep hw hp hm hblock⟩
  by_cases hw : w.optimizer.inProgress = true
  · rw [Optimizer.optimize_of_inProgress (provider minimizer keep) hw]
    rfl
  · have hidle : w.optimizer.inProgress = false := Bool.eq_false_of_not_eq_true hw
    rcases hquiet with hbusy | hblock | ⟨fault, hm⟩
    · exact absurd hbusy hw
    · exact calls_optimize_of_local minimizer keep hidle hp hblock
    · exact calls_optimize_of_error minimizer keep hidle hp hm

/-- A block with an objective and two constraints, the first one with an unknown variable. -/
def halfKnown : NonlinearBlock :=
  ⟨.ofExprs 7 (some (.reference ⟨1⟩)) [.reference ⟨9⟩, .reference ⟨1⟩] [expressionGraphs],
    [(0, 1), (0, 1)], true⟩

def halfKnownWorld : World Unit :=
  ⟨(Optimizer.ofSettings .default).edited
    (Model.empty.performAll [.addVariable, .setBlock (some halfKnown)]), .initial, [], ()⟩

/-- After the constraint that is of no use, the other one is not asked for. -/
theorem followsProtocol_halfKnown :
    halfKnownWorld.optimizer.model.Reachable ∧
      (after (Optimizer.optimize (provider (claiming [1]) fun _ u => u)
        halfKnownWorld)).evaluator.calls = halfKnown.evaluator.callsFor
          [.prepare [expressionGraphs], .features, .objective, .constraint 1] := by
  have hreachable : halfKnownWorld.optimizer.model.Reachable := Model.Reachable.empty.performAll _
  obtain ⟨p, hp, -, h⟩ := followsProtocol_optimize (claiming [1]) (fun _ u => u) hreachable
  have hprotocol := h .slsqp halfKnown rfl rfl rfl
  cases hp
  exact ⟨hreachable, hprotocol.granted _ _ rfl rfl rfl (List.mem_singleton_self _)⟩

end Numeric

end Extremum
