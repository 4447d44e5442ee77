import Extremum.Proofs.Evaluator.Record
import Extremum.Proofs.Numeric.Course

/-!
# What a solve asks a nonlinear evaluator

A solve asks the nonlinear evaluator of a problem to prepare, then for its features, and then for
one expression after another until one is of no use. All that comes before the minimizer is run.
-/

namespace Extremum

/-- The items of a list up to the first one that fails, with that one. -/
def upToFailure {α : Type} (succeeds : α → Bool) : List α → List α
  | [] => []
  | a :: as => a :: if succeeds a then upToFailure succeeds as else []

theorem upToFailure_map {α β : Type} (succeeds : β → Bool) (g : α → β) (as : List α) :
    upToFailure succeeds (as.map g) = (upToFailure (succeeds ∘ g) as).map g := by
  induction as with
  | nil => rfl
  | cons a as ih =>
      rw [List.map_cons, upToFailure, upToFailure, List.map_cons, ih, Function.comp_apply]
      cases succeeds (g a) <;> rfl

namespace UnifiedEvaluator

/-- What the nonlinear evaluator gives for an index can be resolved and compiled. -/
def isUsable (u : UnifiedEvaluator) (evaluator : NonlinearEvaluator) (i : Nat) : Bool :=
  (u.resolvedAt evaluator i >>= Expr.compile).isOk

/-- The objective has to come from a nonlinear block. -/
def lacksObjective (u : UnifiedEvaluator) (block : NonlinearBlock) : Bool :=
  u.objective.isNone && block.hasObjective

/-- The indices for which the evaluator of a block is needed, in order. -/
def neededIndices (u : UnifiedEvaluator) (block : NonlinearBlock) : List Nat :=
  (if u.lacksObjective block then [0] else []) ++ (List.range block.bounds.length).map (· + 1)

/-- The first two questions, with which an evaluator is introduced. -/
def introduction : List EvaluatorQuestion := [.prepare [expressionGraphs], .features]

/-- All questions that a solve has for the evaluator of a block, in order. -/
def questions (u : UnifiedEvaluator) (block : NonlinearBlock) : List EvaluatorQuestion :=
  introduction ++ (u.neededIndices block).map questionFor

/-- What a nonlinear evaluator answers to a question lets a solve go on. -/
def isAnswered (u : UnifiedEvaluator) (evaluator : NonlinearEvaluator) : EvaluatorQuestion → Bool
  | .prepare names => (evaluator.prepare names).isOk
  | .features =>
    match evaluator.features with
    | .ok names => names.contains expressionGraphs
    | .error _ => false
  | .objective => u.isUsable evaluator 0
  | .constraint i => u.isUsable evaluator i

end UnifiedEvaluator

namespace NonlinearEvaluator

/-- What an evaluator offers once it has been prepared for expression graphs. -/
def offered (evaluator : NonlinearEvaluator) : Except Fault (List String) :=
  evaluator.prepare [expressionGraphs] >>= fun _ => evaluator.features

/-- Questions to an evaluator as calls. -/
def callsFor (evaluator : NonlinearEvaluator) (questions : List EvaluatorQuestion) :
    List EvaluatorCall := questions.map (⟨evaluator.id, ·⟩)

end NonlinearEvaluator

namespace Numeric

open UnifiedEvaluator EvaluatorState

variable {s : Settings} {m : Method} {minimizer : Minimizer} {p : Problem} {f : Functions}
  {e e' : EvaluatorState} {st : SolveState} {u : UnifiedEvaluator} {block : NonlinearBlock}
  {α β : Type}

/-! ## Queries that ask for nothing -/

theorem after_bind_of_silent {x : EvaluatorM α} {k : α → EvaluatorM β}
    (hk : ∀ a e, after (k a e) = e) (e : EvaluatorState) : after ((x >>= k) e) = after (x e) := by
  cases hx : x e with
  | ok a e' =>
      rw [action_bind_of_ok hx]
      exact hk a e'
  | error fault e' =>
      rw [action_bind_of_error hx]
      rfl

theorem after_mapM_of_silent {k : α → EvaluatorM β} {as : List α}
    (hk : ∀ a ∈ as, ∀ e, after (k a e) = e) (e : EvaluatorState) : after (as.mapM k e) = e := by
  induction as generalizing e with
  | nil => rfl
  | cons a as ih =>
      have hfirst := hk a List.mem_cons_self e
      have hrest := ih fun b hb => hk b (List.mem_cons_of_mem _ hb)
      rw [List.mapM_cons]
      cases hx : k a e with
      | ok b e' =>
          rw [hx] at hfirst
          rw [action_bind_of_ok hx, after_bind_of_silent fun _ _ => rfl]
          exact (hrest e').trans hfirst
      | error fault e' =>
          rw [hx] at hfirst
          rw [action_bind_of_error hx]
          exact hfirst

theorem after_compiled (query : EvaluatorM Expr) (e : EvaluatorState) :
    after (compiled query e) = after (query e) := by
  refine after_bind_of_silent (fun expression e' => ?_) e
  cases expression.compile <;> rfl

/-! ## Expressions -/

/-- A query asks the evaluator of a block for an index. -/
structure Asks (u : UnifiedEvaluator) (block : NonlinearBlock) (i : Nat) (e : EvaluatorState)
    (r : EStateM.Result Fault EvaluatorState Compiled) : Prop where
  calls : (after r).calls = e.calls ++ block.evaluator.callsFor [questionFor i]
  result : resultOf r = u.resolvedAt block.evaluator i >>= Expr.compile
  others : ∀ j, j ≠ i → (after r).resolved.lookup j = e.resolved.lookup j

theorem asks_innerExpression (u : UnifiedEvaluator) (block : NonlinearBlock) {i : Nat}
    (hi : e.resolved.lookup i = none) :
    Asks u block i e (compiled (u.innerExpression block.evaluator i) e) := by
  have hquery := u.innerExpression_eq block.evaluator i e
  rw [hi] at hquery
  constructor
  · rw [after_compiled, hquery]
    cases u.resolvedAt block.evaluator i <;> rfl
  · rw [resultOf_compiled, hquery]
    cases u.resolvedAt block.evaluator i <;> rfl
  · intro j hj
    rw [after_compiled, hquery]
    cases u.resolvedAt block.evaluator i with
    | ok expression =>
        dsimp only [after]
        rw [List.lookup_cons, beq_false_of_ne hj]
    | error fault => rfl

theorem Asks.isUsable_of_ok {i : Nat} {g : Compiled} (h : Asks u block i e (.ok g e')) :
    u.isUsable block.evaluator i = true := by
  rw [isUsable, ← h.result]
  rfl

theorem Asks.isUsable_of_error {i : Nat} {fault : Fault} (h : Asks u block i e (.error fault e')) :
    u.isUsable block.evaluator i = false := by
  rw [isUsable, ← h.result]
  rfl

/-- The constraints of the block are asked for in order until one is of no use. -/
theorem calls_constraints (hb : u.inner = some block) {is : List Nat} (hnodup : is.Nodup)
    (hlt : ∀ i ∈ is, i < block.bounds.length)
    (hnew : ∀ i ∈ is, e.resolved.lookup (i + 1) = none) :
    (after (is.mapM (fun i => compiled (u.constraintExpression (i + 1 : Nat))) e)).calls =
      e.calls ++ block.evaluator.callsFor
        ((upToFailure (u.isUsable block.evaluator) (is.map (· + 1))).map questionFor) := by
  induction is generalizing e with
  | nil => exact (List.append_nil _).symm
  | cons i is ih =>
      obtain ⟨hi, hnodup⟩ := List.nodup_cons.1 hnodup
      have hquery : u.constraintExpression (i + 1 : Nat) =
          u.innerExpression block.evaluator (i + 1) :=
        funext fun e => constraintExpression_inner hb (hlt i List.mem_cons_self) e
      have hasks := asks_innerExpression u block (hnew i List.mem_cons_self)
      rw [List.mapM_cons, hquery, List.map_cons, upToFailure]
      cases hx : compiled (u.innerExpression block.evaluator (i + 1)) e with
      | error fault e' =>
          rw [hx] at hasks
          rw [action_bind_of_error hx, hasks.isUsable_of_error]
          exact hasks.calls
      | ok g e' =>
          rw [hx] at hasks
          have hcalls : e'.calls = e.calls ++ block.evaluator.callsFor [questionFor (i + 1)] :=
            hasks.calls
          -- what is still to come was not asked for before, nor is it by this query
          have hrest := ih (e := e') hnodup (fun j hj => hlt j (List.mem_cons_of_mem _ hj))
            fun j hj => by
              rw [← hnew j (List.mem_cons_of_mem _ hj)]
              refine hasks.others (j + 1) fun heq => hi ?_
              rwa [← Nat.succ.inj heq]
          rw [action_bind_of_ok hx, after_bind_of_silent fun _ _ => rfl, hrest, hcalls,
            hasks.isUsable_of_ok]
          simp [NonlinearEvaluator.callsFor]

/-- The constraints that are not of the block ask for nothing. -/
theorem calls_allConstraints (hb : p.evaluator.inner = some block)
    (hnew : ∀ i, e.resolved.lookup (i + 1) = none) :
    (after ((List.range p.constraintCount).mapM
        (fun i => compiled (p.evaluator.constraintExpression (i + 1 : Nat))) e)).calls =
      e.calls ++ block.evaluator.callsFor ((upToFailure (p.evaluator.isUsable block.evaluator)
        ((List.range block.bounds.length).map (· + 1))).map questionFor) := by
  have hcount : p.evaluator.innerCount = block.bounds.length := by rw [innerCount, hb]
  have hsplit : List.range p.constraintCount = List.range block.bounds.length ++
      (List.range p.evaluator.constraints.length).map (block.bounds.length + ·) := by
    rw [← List.range_add, ← hcount]
    exact congrArg List.range p.evaluator_count.symm
  have hinner := calls_constraints hb List.nodup_range (fun i => List.mem_range.1)
    fun i _ => hnew i
  rw [hsplit, List.mapM_append, after_bind_of_silent (fun gs e => ?_)]
  · exact hinner
  · rw [after_bind_of_silent fun _ _ => rfl]
    refine after_mapM_of_silent (fun i hi e => ?_) e
    obtain ⟨k, -, rfl⟩ := List.mem_map.1 hi
    rw [after_compiled]
    refine constraintExpression_of_not_inner (fun hindex => ?_) e
    rw [hcount] at hindex
    omega

/-- An objective that does not come from the block is there at once. -/
theorem compiled_objective (hb : u.inner = some block) (hlacks : u.lacksObjective block = false)
    (hlocal : ∀ expression, u.objective = some expression → ∃ g, expression.compile = .ok g)
    (e : EvaluatorState) : ∃ g, compiled u.objectiveExpression e = .ok g e := by
  cases ho : u.objective with
  | some expression =>
      obtain ⟨g, hg⟩ := hlocal expression ho
      refine ⟨g, compiled_eq_ok.2 ⟨expression, ?_, hg⟩⟩
      simp only [objectiveExpression, ho]
      rfl
  | none =>
      have hobjective : block.hasObjective = false := by simpa [lacksObjective, ho] using hlacks
      refine ⟨fun _ => .ok 0, compiled_eq_ok.2 ⟨.constant 0, ?_, rfl⟩⟩
      simp only [objectiveExpression, ho, hb, hobjective]
      rfl

/-- The functions of a problem, from an evaluator that gives out expressions. -/
def requested (p : Problem) : EvaluatorM Functions := do
  let objective ← compiled p.evaluator.objectiveExpression
  let constraints ← (List.range p.constraintCount).mapM fun i =>
    compiled (p.evaluator.constraintExpression (i + 1 : Nat))
  return {
    objective := objective
    constraints := constraints
    sign := p.direction.sign
    rows := normalRows p }

theorem calls_requested_of_local (hb : p.evaluator.inner = some block)
    (hlacks : p.evaluator.lacksObjective block = false)
    (hlocal : ∀ expression, p.evaluator.objective = some expression →
      ∃ g, expression.compile = .ok g)
    (hnew : ∀ i, e.resolved.lookup i = none) :
    (after (requested p e)).calls = e.calls ++ block.evaluator.callsFor
      ((upToFailure (p.evaluator.isUsable block.evaluator)
        (p.evaluator.neededIndices block)).map questionFor) := by
  obtain ⟨g, hg⟩ := compiled_objective hb hlacks hlocal e
  unfold requested neededIndices
  rw [action_bind_of_ok hg, after_bind_of_silent fun _ _ => rfl,
    calls_allConstraints hb fun i => hnew (i + 1), hlacks]
  rfl

theorem calls_requested_of_inner (hb : p.evaluator.inner = some block)
    (hlacks : p.evaluator.lacksObjective block = true) (hnew : ∀ i, e.resolved.lookup i = none) :
    (after (requested p e)).calls = e.calls ++ block.evaluator.callsFor
      ((upToFailure (p.evaluator.isUsable block.evaluator)
        (p.evaluator.neededIndices block)).map questionFor) := by
  have ⟨hnone, hobjective⟩ := Bool.and_eq_true_iff.1 hlacks
  have hquery : p.evaluator.objectiveExpression = p.evaluator.innerExpression block.evaluator 0 :=
    funext fun e => objectiveExpression_inner (Option.isNone_iff_eq_none.1 hnone) hb hobjective e
  have hasks := asks_innerExpression p.evaluator block (hnew 0)
  have hindices : p.evaluator.neededIndices block =
      0 :: (List.range block.bounds.length).map (· + 1) := by
    rw [neededIndices, hlacks]
    rfl
  unfold requested
  rw [hquery, hindices, upToFailure]
  cases hx : compiled (p.evaluator.innerExpression block.evaluator 0) e with
  | error fault e' =>
      rw [hx] at hasks
      rw [action_bind_of_error hx, hasks.isUsable_of_error]
      exact hasks.calls
  | ok g e' =>
      rw [hx] at hasks
      have hcalls : e'.calls = e.calls ++ block.evaluator.callsFor [questionFor 0] := hasks.calls
      have hlater : ∀ i, e'.resolved.lookup (i + 1) = none := fun i =>
        (hasks.others (i + 1) (Nat.succ_ne_zero i)).trans (hnew (i + 1))
      rw [action_bind_of_ok hx, after_bind_of_silent fun _ _ => rfl,
        calls_allConstraints hb hlater, hcalls, hasks.isUsable_of_ok]
      simp [NonlinearEvaluator.callsFor]

/-! ## All questions -/

theorem prepare_eq (hb : u.inner = some block) (names : List String) (e : EvaluatorState) :
    u.prepare names e =
      match block.evaluator.prepare names with
      | .ok _ => .ok () (noted block.evaluator (.prepare names) e)
      | .error fault => .error fault (noted block.evaluator (.prepare names) e) := by
  unfold prepare
  rw [hb]
  show EStateM.bind (record block.evaluator _) _ e = _
  cases block.evaluator.prepare names <;> rfl

theorem features_eq (hb : u.inner = some block) (e : EvaluatorState) :
    u.features e =
      match block.evaluator.features with
      | .ok names => .ok names (noted block.evaluator .features e)
      | .error fault => .error fault (noted block.evaluator .features e) := by
  unfold UnifiedEvaluator.features
  rw [hb]
  show EStateM.bind (record block.evaluator _) _ e = _
  cases block.evaluator.features <;> rfl

/-- The state after the introduction of a nonlinear evaluator. -/
def introduced (evaluator : NonlinearEvaluator) (e : EvaluatorState) : EvaluatorState :=
  { e with calls := e.calls ++ evaluator.callsFor introduction }

theorem introduced_eq (evaluator : NonlinearEvaluator) (e : EvaluatorState) :
    introduced evaluator e =
      noted evaluator .features (noted evaluator (.prepare [expressionGraphs]) e) := by
  show EvaluatorState.mk e.resolved _ = EvaluatorState.mk e.resolved ((e.calls ++ [_]) ++ [_])
  rw [List.append_assoc]
  rfl

theorem functions_of_unprepared {fault : Fault} (hb : p.evaluator.inner = some block)
    (hprepare : block.evaluator.prepare [expressionGraphs] = .error fault) (e : EvaluatorState) :
    functions p e = .error fault (noted block.evaluator (.prepare [expressionGraphs]) e) := by
  have hasked := prepare_eq hb [expressionGraphs] e
  rw [hprepare] at hasked
  exact action_bind_of_error hasked

/-- An evaluator that is prepared is asked for its features next. -/
theorem functions_of_prepared (hb : p.evaluator.inner = some block)
    (hprepare : block.evaluator.prepare [expressionGraphs] = .ok ()) (e : EvaluatorState) :
    functions p e =
      match block.evaluator.features with
      | .ok names =>
        if expressionGraphs ∈ names then requested p (introduced block.evaluator e)
        else .error (.solverFailure "The evaluator does not provide expression graphs")
          (introduced block.evaluator e)
      | .error fault => .error fault (introduced block.evaluator e) := by
  have hasked := prepare_eq hb [expressionGraphs] e
  rw [hprepare] at hasked
  have hnames := features_eq hb (noted block.evaluator (.prepare [expressionGraphs]) e)
  rw [← introduced_eq] at hnames
  unfold functions
  rw [action_bind_of_ok hasked]
  cases hfeatures : block.evaluator.features with
  | error fault =>
      rw [hfeatures] at hnames
      exact action_bind_of_error hnames
  | ok names =>
      rw [hfeatures] at hnames
      rw [action_bind_of_ok hnames]
      by_cases h : expressionGraphs ∈ names
      · rw [if_neg (by simpa using h)]
        exact (if_pos h).symm
      · rw [if_pos (by simpa using h)]
        exact (if_neg h).symm

theorem after_functions_of_local (hb : p.evaluator.inner = none) (e : EvaluatorState) :
    after (functions p e) = e := by
  have hobjective : ∀ e, after (compiled p.evaluator.objectiveExpression e) = e := by
    intro e
    rw [after_compiled]
    unfold objectiveExpression
    rw [hb]
    cases p.evaluator.objective <;> rfl
  have hconstraint : ∀ i e,
      after (compiled (p.evaluator.constraintExpression (i + 1 : Nat)) e) = e := by
    intro i e
    rw [after_compiled]
    refine constraintExpression_of_not_inner (fun hindex => ?_) e
    rw [innerCount, hb] at hindex
    exact absurd hindex.2 (by simp)
  have hrequested : after (requested p e) = e := by
    unfold requested
    rw [after_bind_of_silent fun objective e => ?_]
    · exact hobjective e
    · rw [after_bind_of_silent fun _ _ => rfl]
      exact after_mapM_of_silent (fun i _ => hconstraint i) e
  have hprepare : p.evaluator.prepare [expressionGraphs] e = .ok () e := by
    rw [prepare, hb]
    rfl
  have hfeatures : p.evaluator.features e = .ok [expressionGraphs] e := by
    rw [UnifiedEvaluator.features, hb]
    rfl
  unfold functions
  rw [action_bind_of_ok hprepare, action_bind_of_ok hfeatures]
  exact hrequested

theorem calls_requested (hb : p.evaluator.inner = some block)
    (hlocal : ∀ expression, p.evaluator.objective = some expression →
      ∃ g, expression.compile = .ok g)
    (hnew : ∀ i, e.resolved.lookup i = none) :
    (after (requested p e)).calls = e.calls ++ block.evaluator.callsFor
      ((upToFailure (p.evaluator.isUsable block.evaluator)
        (p.evaluator.neededIndices block)).map questionFor) := by
  cases hlacks : p.evaluator.lacksObjective block with
  | false => exact calls_requested_of_local hb hlacks hlocal hnew
  | true => exact calls_requested_of_inner hb hlacks hnew

theorem isAnswered_questionFor (u : UnifiedEvaluator) (evaluator : NonlinearEvaluator) :
    u.isAnswered evaluator ∘ questionFor = u.isUsable evaluator := by
  funext i
  cases i <;> rfl

/-- How an evaluator answers to its introduction if it offers some features. -/
theorem isAnswered_of_offered {names : List String} (h : block.evaluator.offered = .ok names) :
    u.isAnswered block.evaluator (.prepare [expressionGraphs]) = true ∧
      u.isAnswered block.evaluator .features = names.contains expressionGraphs := by
  obtain ⟨_, hprepare, hfeatures⟩ := bind_eq_ok.1 h
  constructor
  · rw [isAnswered, hprepare]
    rfl
  · rw [isAnswered, hfeatures]

/-- If expression graphs are offered, then the expressions follow the introduction. -/
theorem upToFailure_questions {names : List String} (h : block.evaluator.offered = .ok names)
    (hoffered : expressionGraphs ∈ names) :
    upToFailure (u.isAnswered block.evaluator) (u.questions block) = introduction ++
      (upToFailure (u.isUsable block.evaluator) (u.neededIndices block)).map questionFor := by
  obtain ⟨hprepared, hfeatures⟩ := isAnswered_of_offered (u := u) h
  rw [List.contains_iff_mem.2 hoffered] at hfeatures
  rw [← isAnswered_questionFor u, ← upToFailure_map]
  simp only [questions, introduction, List.cons_append, upToFailure, hprepared, hfeatures,
    ↓reduceIte, List.nil_append]

/-- If they are not, then the introduction is all there is. -/
theorem upToFailure_questions_of_withheld {names : List String}
    (h : block.evaluator.offered = .ok names) (hoffered : expressionGraphs ∉ names) :
    upToFailure (u.isAnswered block.evaluator) (u.questions block) = introduction := by
  obtain ⟨hprepared, hfeatures⟩ := isAnswered_of_offered (u := u) h
  rw [Bool.eq_false_of_not_eq_true fun h => hoffered (List.contains_iff_mem.1 h)] at hfeatures
  simp [questions, introduction, upToFailure, hprepared, hfeatures]

/-- Each question is put once and in order, up to the first answer that is of no use. -/
theorem calls_functions (hb : p.evaluator.inner = some block) (he : e.resolved = [])
    (hlocal : ∀ expression, p.evaluator.objective = some expression →
      ∃ g, expression.compile = .ok g) :
    (after (functions p e)).calls = e.calls ++ block.evaluator.callsFor
      (upToFailure (p.evaluator.isAnswered block.evaluator) (p.evaluator.questions block)) := by
  cases hprepare : block.evaluator.prepare [expressionGraphs] with
  | error fault =>
      have hcut : upToFailure (p.evaluator.isAnswered block.evaluator)
          (p.evaluator.questions block) = [.prepare [expressionGraphs]] := by
        simp [questions, introduction, upToFailure, isAnswered, hprepare, Except.isOk,
          Except.toBool]
      rw [functions_of_unprepared hb hprepare, hcut]
      rfl
  | ok u =>
      rw [functions_of_prepared hb hprepare]
      cases hfeatures : block.evaluator.features with
      | error fault =>
          have hcut : upToFailure (p.evaluator.isAnswered block.evaluator)
              (p.evaluator.questions block) = introduction := by
            simp [questions, introduction, upToFailure, isAnswered, hprepare, hfeatures,
              Except.isOk, Except.toBool]
          rw [hcut]
          rfl
      | ok names =>
          have hnames : block.evaluator.offered = .ok names :=
            bind_eq_ok.2 ⟨u, hprepare, hfeatures⟩
          dsimp only
          by_cases hoffered : expressionGraphs ∈ names
          · rw [if_pos hoffered, upToFailure_questions hnames hoffered,
              calls_requested hb hlocal fun i => ?_]
            · simp [introduced, NonlinearEvaluator.callsFor]
            · show e.resolved.lookup i = none
              rw [he]
              rfl
          · rw [if_neg hoffered, upToFailure_questions_of_withheld hnames hoffered]
            rfl

/-- If nothing is offered, the functions fail for the same reason. -/
theorem functions_of_unoffered {fault : Fault} (hb : p.evaluator.inner = some block)
    (h : block.evaluator.offered = .error fault) (e : EvaluatorState) :
    resultOf (functions p e) = .error fault := by
  rcases bind_eq_error.1 h with hprepare | ⟨u, hprepare, hfeatures⟩
  · rw [functions_of_unprepared hb hprepare]
    rfl
  · rw [functions_of_prepared hb hprepare, hfeatures]
    rfl

theorem functions_of_withheld {names : List String} (hb : p.evaluator.inner = some block)
    (h : block.evaluator.offered = .ok names) (hoffered : expressionGraphs ∉ names)
    (e : EvaluatorState) : functions p e =
      .error (.solverFailure "The evaluator does not provide expression graphs")
        (introduced block.evaluator e) := by
  obtain ⟨u, hprepare, hfeatures⟩ := bind_eq_ok.1 h
  rw [functions_of_prepared hb hprepare, hfeatures]
  exact if_neg hoffered

/-! ## Solves -/

/-- The state of the evaluator after a computation. -/
def evaluatorAfter : EStateM.Result Fault SolveState α → EvaluatorState
  | .ok _ st => st.evaluator
  | .error _ st => st.evaluator

/-- A computation that does not ask the evaluator for anything. -/
def AsksNothing (c : SolveM α) : Prop := ∀ st, evaluatorAfter (c st) = st.evaluator

theorem AsksNothing.bind {c : SolveM α} {k : α → SolveM β} (hc : AsksNothing c)
    (hk : ∀ a, AsksNothing (k a)) : AsksNothing (c >>= k) := by
  intro st
  have hst := hc st
  cases h : c st with
  | error fault st' =>
      rw [h] at hst
      rw [action_bind_of_error h]
      exact hst
  | ok a st' =>
      rw [h] at hst
      rw [action_bind_of_ok h]
      exact (hk a st').trans hst

theorem asksNothing_ofExcept (x : Except Fault α) :
    AsksNothing (MonadExcept.ofExcept x : SolveM α) := by
  intro st
  cases x <;> rfl

theorem asksNothing_minimized (s : Settings) (m : Method) (minimizer : Minimizer) (p : Problem)
    (b : VariableBounds) (f : Functions) : AsksNothing (minimized s m minimizer p b f) := by
  unfold minimized
  split
  · exact fun st => rfl
  · refine (asksNothing_ofExcept _).bind fun r => AsksNothing.bind (fun st => rfl) fun _ => ?_
    cases ((minimizer r).run f .empty).result <;> exact fun st => rfl

theorem asksNothing_judged (m : Method) (p : Problem) (b : VariableBounds) (f : Functions)
    (o : Outcome) (c : ConstraintCache) : AsksNothing (judged m p b f o c) := by
  unfold judged
  refine (asksNothing_ofExcept _).bind fun x => (asksNothing_ofExcept _).bind fun objective =>
    (asksNothing_ofExcept _).bind fun outside => (asksNothing_ofExcept _).bind fun values =>
      (asksNothing_ofExcept _).bind fun broken => ?_
  cases o.message <;> exact fun st => rfl

/-- A solve up to the run of the minimizer. -/
def compiling (m : Method) (p : Problem) : SolveM (VariableBounds × Functions) := do
  MonadExcept.ofExcept (m.checkFeatures p)
  let b ← MonadExcept.ofExcept (checkedBounds m p)
  return (b, ← queried (functions p))

/-- A solve from the run of the minimizer on. -/
def running (s : Settings) (m : Method) (minimizer : Minimizer) (p : Problem)
    (b : VariableBounds) (f : Functions) : SolveM SolverResult := do
  let (outcome, cache) ← minimized s m minimizer p b f
  judged m p b f outcome cache

theorem solve_eq (s : Settings) (m : Method) (minimizer : Minimizer) (p : Problem) :
    solve s m minimizer p =
      compiling m p >>= fun (b, f) => running s m minimizer p b f := by
  simp only [solve, compiling, bind_assoc, pure_bind]
  rfl

theorem asksNothing_running (s : Settings) (m : Method) (minimizer : Minimizer) (p : Problem)
    (b : VariableBounds) (f : Functions) : AsksNothing (running s m minimizer p b f) :=
  (asksNothing_minimized s m minimizer p b f).bind fun (o, c) => asksNothing_judged m p b f o c

/-- No minimizer is run before the functions are compiled. -/
theorem exchangeAfter_compiling (m : Method) (p : Problem) (st : SolveState) :
    exchangeAfter (compiling m p st) = st.exchange := by
  refine exchangeAfter_ofExcept_bind fun _ => exchangeAfter_ofExcept_bind fun b => ?_
  cases hf : functions p st.evaluator with
  | error fault e =>
      rw [action_bind_of_error (queried_of_error hf)]
      rfl
  | ok f e =>
      rw [action_bind_of_ok (queried_of_ok hf)]
      rfl

theorem evaluatorAfter_solve (s : Settings) (m : Method) (minimizer : Minimizer) (p : Problem)
    (st : SolveState) :
    evaluatorAfter (solve s m minimizer p st) = evaluatorAfter (compiling m p st) := by
  rw [solve_eq]
  cases h : compiling m p st with
  | error fault st' =>
      rw [action_bind_of_error h]
      rfl
  | ok bf st' =>
      rw [action_bind_of_ok h]
      exact asksNothing_running s m minimizer p bf.1 bf.2 st'

/-- A problem that does not pass the checks leads to no question. -/
theorem evaluatorAfter_of_refused {fault : Fault}
    (h : m.checkFeatures p = .error fault ∨ checkedBounds m p = .error fault) (st : SolveState) :
    evaluatorAfter (solve s m minimizer p st) = st.evaluator := by
  rw [evaluatorAfter_solve]
  cases hfeatures : m.checkFeatures p with
  | error fault' =>
      unfold compiling
      rw [hfeatures]
      rfl
  | ok u =>
      have hbounds := h.resolve_left (by rw [hfeatures]; nofun)
      unfold compiling
      rw [hfeatures, hbounds]
      rfl

theorem evaluatorAfter_of_checks {b : VariableBounds} (hfeatures : m.checkFeatures p = .ok ())
    (hbounds : checkedBounds m p = .ok b) (st : SolveState) :
    evaluatorAfter (solve s m minimizer p st) = after (functions p st.evaluator) := by
  rw [evaluatorAfter_solve]
  unfold compiling
  rw [hfeatures, hbounds]
  show evaluatorAfter ((queried (functions p) >>= fun f => pure (b, f)) st) = _
  cases hf : functions p st.evaluator with
  | error fault e =>
      rw [action_bind_of_error (queried_of_error hf)]
      rfl
  | ok f e =>
      rw [action_bind_of_ok (queried_of_ok hf)]
      rfl

/-- A fault in the compilation of the functions is the outcome of the solve. -/
theorem resultOf_of_uncompiled {b : VariableBounds} {fault : Fault} (s : Settings)
    (minimizer : Minimizer) (hfeatures : m.checkFeatures p = .ok ())
    (hbounds : checkedBounds m p = .ok b)
    (hfunctions : resultOf (functions p st.evaluator) = .error fault) :
    resultOf (solve s m minimizer p st) = .error fault := by
  rw [solve_of_checks hfeatures hbounds]
  cases hf : functions p st.evaluator with
  | ok f e =>
      rw [hf] at hfunctions
      cases hfunctions
  | error fault' e =>
      rw [hf] at hfunctions
      cases hfunctions
      rw [action_bind_of_error (queried_of_error hf)]
      rfl

end Numeric

end Extremum
