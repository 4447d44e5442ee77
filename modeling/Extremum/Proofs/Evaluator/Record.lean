import Extremum.Proofs.Evaluator.Answers
import Extremum.Proofs.Expr.Resolution
import Extremum.Proofs.Problem.Rows

/-!
# What nonlinear evaluators are asked

Queries to a unified evaluator are answered as by a new one, whatever was asked before. The
nonlinear evaluator is asked for an expression once if it can be resolved, and anew for each query
if it cannot. It is not asked for any other expression.
-/

namespace Extremum

/-- The faults of being asked for something unknown. -/
def Fault.IsUnknown : Fault → Prop
  | .unknownVariable _ | .unknownConstraint _ | .unknownPosition _ => True
  | _ => False

namespace UnifiedEvaluator

/-- What a query is answered with. -/
inductive Answer where
  | done
  | features (names : List String)
  | expression (e : Expr)

/-- The answer to a query, or why there is none. -/
def answer (u : UnifiedEvaluator) (s : EvaluatorState) : Query → Except Fault Answer
  | .prepare features => (resultOf (u.prepare features s)).map fun _ => .done
  | .features => (resultOf (u.features s)).map .features
  | .objective => (resultOf (u.objectiveExpression s)).map .expression
  | .constraint index => (resultOf (u.constraintExpression index s)).map .expression

def stateAfterAll (u : UnifiedEvaluator) (s : EvaluatorState) (qs : List Query) : EvaluatorState :=
  qs.foldl u.stateAfter s

/-- The index for which a query is passed on to the nonlinear evaluator, if it is. -/
def delegated? (u : UnifiedEvaluator) : Query → Option Nat
  | .objective =>
    match u.objective, u.inner with
    | none, some block => if block.hasObjective then some 0 else none
    | _, _ => none
  | .constraint index => if 1 ≤ index ∧ index ≤ u.innerCount then some index.toNat else none
  | .prepare _ | .features => none

/-- How many of some queries are passed on for an index. -/
def delegations (u : UnifiedEvaluator) (qs : List Query) (i : Nat) : Nat :=
  (qs.filterMap u.delegated?).count i

/-- How often a nonlinear evaluator was asked for an index. -/
def requests (evaluator : NonlinearEvaluator) (i : Nat) (s : EvaluatorState) : Nat :=
  s.calls.count ⟨evaluator.id, questionFor i⟩

variable {u : UnifiedEvaluator} {s : EvaluatorState} {block : NonlinearBlock} {i : Nat}
  {q : Query} {qs : List Query}

/-! ## One query -/

theorem questionFor_inj {i j : Nat} (h : questionFor i = questionFor j) : i = j := by
  cases i <;> cases j <;> cases h <;> rfl

theorem constraintExpression_of_le (hb : u.inner = some block) {index : Int} (hpos : 1 ≤ index)
    (hle : index ≤ block.bounds.length) (s : EvaluatorState) :
    u.constraintExpression index s = u.innerExpression block.evaluator index.toNat s := by
  obtain ⟨i, rfl⟩ : ∃ i : Nat, index = (i + 1 : Nat) := ⟨(index - 1).toNat, by omega⟩
  exact constraintExpression_inner hb (by omega) s

/-- Beyond the nonlinear constraints, nothing is asked and nothing kept. -/
theorem constraintExpression_of_not_inner {index : Int} (h : ¬ (1 ≤ index ∧ index ≤ u.innerCount))
    (s : EvaluatorState) : EvaluatorState.after (u.constraintExpression index s) = s := by
  have hlocal : EvaluatorState.after (u.algebraicConstraint index s) = s := by
    unfold algebraicConstraint
    cases u.constraints[(index - u.innerCount - 1).toNat]? <;> rfl
  unfold constraintExpression
  split
  · rfl
  · cases hb : u.inner with
    | none => exact hlocal
    | some block =>
        have hcount : u.innerCount = block.bounds.length := by rw [innerCount, hb]
        dsimp only
        rw [if_neg (by omega)]
        exact hlocal

/-- Expressions are resolved unless they refer to a variable that has no position. -/
theorem resolve_cases (u : UnifiedEvaluator) (e : Expr) :
    ((∃ e', e.resolve u.positions.position = .ok e') ∧
      ∀ v ∈ e.references, v ∈ u.positions.vars) ∨
    ∃ v ∈ e.references, v ∉ u.positions.vars ∧
      e.resolve u.positions.position = .error (.unknownVariable v) := by
  cases h : e.resolve u.positions.position with
  | ok e' =>
      refine .inl ⟨⟨e', rfl⟩, fun v hv => ?_⟩
      obtain ⟨p, hp⟩ := Expr.exists_place_of_resolve e h v hv
      exact Positions.mem_of_position hp
  | error fault =>
      obtain ⟨v, hv, hplace⟩ := Expr.exists_reference_of_resolve_error e h
      obtain ⟨hnot, rfl⟩ := Positions.position_eq_error hplace
      exact .inr ⟨v, hv, hnot, rfl⟩

/-- A query is passed on by asking for the resolved expression at an index. -/
theorem stateAfter_of_delegated (hb : u.inner = some block) (h : u.delegated? q = some i)
    (s : EvaluatorState) : u.stateAfter s q = .after (u.innerExpression block.evaluator i s) := by
  cases q with
  | prepare _ | features => cases h
  | objective =>
      cases ho : u.objective with
      | some e => simp [delegated?, ho] at h
      | none =>
          cases hobjective : block.hasObjective with
          | false => simp [delegated?, ho, hb, hobjective] at h
          | true =>
              obtain rfl : 0 = i := by simpa [delegated?, ho, hb, hobjective] using h
              exact congrArg EvaluatorState.after (objectiveExpression_inner ho hb hobjective s)
  | constraint index =>
      simp only [delegated?, innerCount, hb] at h
      split at h
      · rename_i hindex
        cases h
        exact congrArg EvaluatorState.after
          (constraintExpression_of_le hb hindex.1 hindex.2 s)
      · cases h

theorem requests_append (evaluator : NonlinearEvaluator) (i : Nat) (s : EvaluatorState)
    (call : EvaluatorCall) (h : call.question ≠ questionFor i) :
    requests evaluator i { s with calls := s.calls ++ [call] } = requests evaluator i s := by
  have hne : call ≠ ⟨evaluator.id, questionFor i⟩ := fun heq => h (congrArg _ heq)
  simp [requests, List.count_append, hne]

/-- A query that is not passed on asks for no expression, and no further one is kept. -/
theorem stateAfter_of_not_delegated (h : u.delegated? q = none) (s : EvaluatorState)
    (evaluator : NonlinearEvaluator) (i : Nat) :
    (u.stateAfter s q).resolved = s.resolved ∧
      requests evaluator i (u.stateAfter s q) = requests evaluator i s := by
  cases q with
  | prepare names =>
      rw [stateAfter_prepare]
      cases u.inner with
      | none => exact ⟨rfl, rfl⟩
      | some block => exact ⟨rfl, requests_append _ _ _ _ (by cases i <;> simp [questionFor])⟩
  | features =>
      rw [stateAfter_features]
      cases u.inner with
      | none => exact ⟨rfl, rfl⟩
      | some block => exact ⟨rfl, requests_append _ _ _ _ (by cases i <;> simp [questionFor])⟩
  | objective =>
      suffices hsame : u.stateAfter s .objective = s by
        rw [hsame]
        exact ⟨rfl, rfl⟩
      cases ho : u.objective with
      | some e => simp only [stateAfter, objectiveExpression, ho]; rfl
      | none =>
          cases hb : u.inner with
          | none => simp only [stateAfter, objectiveExpression, ho, hb]; rfl
          | some block =>
              have hobjective : block.hasObjective = false := by
                simpa [delegated?, ho, hb] using h
              simp only [stateAfter, objectiveExpression, ho, hb, hobjective]
              rfl
  | constraint index =>
      have hsame : u.stateAfter s (.constraint index) = s :=
        constraintExpression_of_not_inner (by simpa [delegated?] using h) s
      rw [hsame]
      exact ⟨rfl, rfl⟩

/-! ## Any number of queries -/

/-- How often the nonlinear evaluator is asked for an index by some queries. -/
def expectedRequests (u : UnifiedEvaluator) (evaluator : NonlinearEvaluator) (qs : List Query)
    (i : Nat) : Nat :=
  match u.resolvedAt evaluator i with
  | .ok _ => min 1 (u.delegations qs i)
  | .error _ => u.delegations qs i

/-- What some queries leave behind, if nothing was resolved before: what could be is kept. -/
structure Recorded (u : UnifiedEvaluator) (evaluator : NonlinearEvaluator)
    (calls : List EvaluatorCall) (qs : List Query) (s : EvaluatorState) : Prop where
  lookup : ∀ i, s.resolved.lookup i =
    if 0 < u.delegations qs i then (u.resolvedAt evaluator i).toOption else none
  requests : ∀ i, requests evaluator i s =
    requests evaluator i ⟨[], calls⟩ + u.expectedRequests evaluator qs i

variable {calls : List EvaluatorCall}

theorem delegations_append (u : UnifiedEvaluator) (qs : List Query) (q : Query) (i : Nat) :
    u.delegations (qs ++ [q]) i =
      u.delegations qs i + if u.delegated? q = some i then 1 else 0 := by
  unfold delegations
  rw [List.filterMap_append, List.count_append]
  cases h : u.delegated? q with
  | none => simp [h]
  | some j => simp [h, List.count_singleton, beq_eq_decide]

theorem requests_asked_self (evaluator : NonlinearEvaluator) (i : Nat) (s : EvaluatorState) :
    requests evaluator i (asked evaluator i s) = requests evaluator i s + 1 := by
  simp [requests, asked, noted]

theorem requests_asked_of_ne (evaluator : NonlinearEvaluator) {i j : Nat} (h : i ≠ j)
    (s : EvaluatorState) : requests evaluator i (asked evaluator j s) = requests evaluator i s :=
  requests_append evaluator i s _ fun heq => h (questionFor_inj heq.symm)

/-- Indices other than the one asked for are as before. -/
theorem innerExpression_frame (u : UnifiedEvaluator) (evaluator : NonlinearEvaluator) {i j : Nat}
    (h : i ≠ j) (s : EvaluatorState) :
    (EvaluatorState.after (u.innerExpression evaluator j s)).resolved.lookup i =
        s.resolved.lookup i ∧
      requests evaluator i (.after (u.innerExpression evaluator j s)) =
        requests evaluator i s := by
  rw [innerExpression_eq]
  cases s.resolved.lookup j with
  | some e => exact ⟨rfl, rfl⟩
  | none =>
      cases u.resolvedAt evaluator j with
      | error fault => exact ⟨rfl, requests_asked_of_ne evaluator h s⟩
      | ok e =>
          refine ⟨?_, requests_asked_of_ne evaluator h s⟩
          simp only [EvaluatorState.after, List.lookup_cons, beq_false_of_ne h]

/-- The index asked for is kept if it can be resolved; it is asked for unless it was kept. -/
theorem innerExpression_self (u : UnifiedEvaluator) (evaluator : NonlinearEvaluator) (i : Nat)
    (s : EvaluatorState)
    (h : ∀ e, s.resolved.lookup i = some e → u.resolvedAt evaluator i = .ok e) :
    (EvaluatorState.after (u.innerExpression evaluator i s)).resolved.lookup i =
        (u.resolvedAt evaluator i).toOption ∧
      requests evaluator i (.after (u.innerExpression evaluator i s)) =
        requests evaluator i s + if (s.resolved.lookup i).isSome then 0 else 1 := by
  rw [innerExpression_eq]
  cases hlookup : s.resolved.lookup i with
  | some e =>
      rw [h e hlookup]
      exact ⟨hlookup, rfl⟩
  | none =>
      cases u.resolvedAt evaluator i with
      | error fault => exact ⟨hlookup, requests_asked_self evaluator i s⟩
      | ok e => exact ⟨by simp [EvaluatorState.after, Except.toOption],
          requests_asked_self evaluator i s⟩

theorem Recorded.stateAfter_of_delegated (h : u.Recorded block.evaluator calls qs s)
    (hb : u.inner = some block) {j : Nat} (hq : u.delegated? q = some j) :
    u.Recorded block.evaluator calls (qs ++ [q]) (u.stateAfter s q) := by
  rw [UnifiedEvaluator.stateAfter_of_delegated hb hq]
  have hmore : u.delegations (qs ++ [q]) j = u.delegations qs j + 1 := by
    simp [delegations_append, hq]
  have hother : ∀ i, i ≠ j → u.delegations (qs ++ [q]) i = u.delegations qs i := by
    intro i hij
    simp [delegations_append, hq, Ne.symm hij]
  have hkept : ∀ e, s.resolved.lookup j = some e → u.resolvedAt block.evaluator j = .ok e := by
    intro e he
    rw [h.lookup] at he
    split at he
    · exact toOption_eq_some.1 he
    · cases he
  obtain ⟨hlookup, hrequests⟩ := innerExpression_self u block.evaluator j s hkept
  refine ⟨fun i => ?_, fun i => ?_⟩
  · rcases eq_or_ne i j with rfl | hij
    · rw [hlookup, hmore, if_pos (by omega)]
    · rw [(innerExpression_frame u block.evaluator hij s).1, h.lookup, hother i hij]
  · rcases eq_or_ne i j with rfl | hij
    · rw [hrequests, h.requests, h.lookup, expectedRequests, expectedRequests, hmore]
      cases u.resolvedAt block.evaluator i with
      | ok e => by_cases hpos : 0 < u.delegations qs i <;> simp [hpos, Except.toOption] <;> omega
      | error fault => simp [Except.toOption, Nat.add_assoc]
    · rw [(innerExpression_frame u block.evaluator hij s).2, h.requests, expectedRequests,
        expectedRequests, hother i hij]

theorem Recorded.stateAfter (h : u.Recorded block.evaluator calls qs s)
    (hb : u.inner = some block) (q : Query) :
    u.Recorded block.evaluator calls (qs ++ [q]) (u.stateAfter s q) := by
  cases hq : u.delegated? q with
  | some j => exact h.stateAfter_of_delegated hb hq
  | none =>
      have hsame : ∀ i, u.delegations (qs ++ [q]) i = u.delegations qs i := by
        simp [delegations_append, hq]
      refine ⟨fun i => ?_, fun i => ?_⟩
      · rw [(stateAfter_of_not_delegated hq s block.evaluator i).1, h.lookup, hsame]
      · rw [(stateAfter_of_not_delegated hq s block.evaluator i).2, h.requests, expectedRequests,
          expectedRequests, hsame]

theorem stateAfterAll_append (u : UnifiedEvaluator) (s : EvaluatorState) (qs : List Query)
    (q : Query) : u.stateAfterAll s (qs ++ [q]) = u.stateAfter (u.stateAfterAll s qs) q := by
  simp [stateAfterAll]

theorem recorded (hb : u.inner = some block) (calls : List EvaluatorCall) (qs : List Query) :
    u.Recorded block.evaluator calls qs (u.stateAfterAll ⟨[], calls⟩ qs) := by
  induction qs using List.reverseRecOn with
  | nil =>
      refine ⟨fun i => rfl, fun i => ?_⟩
      unfold expectedRequests
      cases u.resolvedAt block.evaluator i <;> rfl
  | append_singleton qs q ih =>
      rw [stateAfterAll_append]
      exact ih.stateAfter hb q

theorem queried_stateAfterAll (u : UnifiedEvaluator) (calls : List EvaluatorCall)
    (qs : List Query) : u.Queried (u.stateAfterAll ⟨[], calls⟩ qs) := by
  induction qs using List.reverseRecOn with
  | nil => exact .fresh calls
  | append_singleton qs q ih =>
      rw [stateAfterAll_append]
      exact .query q ih

/-! ## Answers -/

/-- What a constraint query is answered with: it depends on the index only. -/
def constraintAnswer (u : UnifiedEvaluator) (index : Int) : Except Fault Expr :=
  if index < 1 then .error (.unknownPosition index)
  else (u.answers[(index - 1).toNat]?).getD (.error (.unknownPosition index))

theorem Queried.result_constraintExpression_int (h : u.Queried s) (index : Int) :
    resultOf (u.constraintExpression index s) = u.constraintAnswer index := by
  unfold constraintAnswer
  by_cases hpos : index < 1
  · rw [if_pos hpos, constraintExpression, if_pos hpos]
    rfl
  · obtain ⟨i, rfl⟩ : ∃ i : Nat, index = (i + 1 : Nat) := ⟨(index - 1).toNat, by omega⟩
    rw [if_neg hpos, h.result_constraintExpression]
    simp

/-- Whatever was asked before, a query is answered as if nothing had been. -/
theorem Queried.answer_eq (h : u.Queried s) {s' : EvaluatorState} (h' : u.Queried s') (q : Query) :
    u.answer s q = u.answer s' q := by
  cases q with
  | prepare names =>
      rw [answer, answer, resultOf_prepare, resultOf_prepare]
  | features =>
      rw [answer, answer, resultOf_features, resultOf_features]
  | objective =>
      rw [answer, answer, h.result_objectiveExpression, h'.result_objectiveExpression]
  | constraint index =>
      rw [answer, answer, h.result_constraintExpression_int, h'.result_constraintExpression_int]

theorem constraintAnswer_inner (hb : u.inner = some block) {index : Int} (hpos : 1 ≤ index)
    (hle : index ≤ u.innerCount) :
    u.constraintAnswer index = u.resolvedAt block.evaluator index.toNat := by
  obtain ⟨i, rfl⟩ : ∃ i : Nat, index = (i + 1 : Nat) := ⟨(index - 1).toNat, by omega⟩
  have hlt : i < block.bounds.length := by
    simp only [innerCount, hb] at hle
    omega
  have hindex : (((i + 1 : Nat) : Int) - 1).toNat = i := by omega
  rw [constraintAnswer, if_neg (by omega), hindex, answers,
    List.getElem?_append_left (by rw [length_innerAnswers]; omega)]
  simp [innerAnswers, hb, hlt]

theorem constraintAnswer_local (u : UnifiedEvaluator) {index : Int} (hpos : u.innerCount < index) :
    u.constraintAnswer index =
      match u.constraints[(index - u.innerCount - 1).toNat]? with
      | some e => .ok e
      | none => .error (.unknownPosition index) := by
  obtain ⟨k, rfl⟩ : ∃ k : Nat, index = (u.innerCount + k + 1 : Nat) :=
    ⟨(index - u.innerCount - 1).toNat, by omega⟩
  have hindex : (((u.innerCount + k + 1 : Nat) : Int) - 1).toNat = u.innerCount + k := by omega
  have hlocal : (((u.innerCount + k + 1 : Nat) : Int) - u.innerCount - 1).toNat = k := by omega
  rw [constraintAnswer, if_neg (by omega), hindex, hlocal, answers,
    List.getElem?_append_right (by rw [length_innerAnswers]; omega), length_innerAnswers,
    Nat.add_sub_cancel_left, List.getElem?_map]
  cases u.constraints[k]? <;> rfl

theorem constraintAnswer_outside (u : UnifiedEvaluator) {index : Int}
    (h : index < 1 ∨ u.constraintCount < index) :
    u.constraintAnswer index = .error (.unknownPosition index) := by
  rcases h with h | h
  · rw [constraintAnswer, if_pos h]
  · have hnone : u.constraints[(index - u.innerCount - 1).toNat]? = none := by
      rw [List.getElem?_eq_none_iff]
      unfold constraintCount at h
      omega
    have hinner : (u.innerCount : Int) < index := by
      unfold constraintCount at h
      omega
    rw [constraintAnswer_local u hinner, hnone]

/--
An index is unknown if it is out of range, and else only if the nonlinear evaluator, or resolving
what it gives, says so.
-/
theorem constraintAnswer_unknown_iff (u : UnifiedEvaluator) (index : Int) :
    (∃ fault, fault.IsUnknown ∧ u.constraintAnswer index = .error fault) ↔
      (index < 1 ∨ u.constraintCount < index) ∨
      ∃ block, u.inner = some block ∧ 1 ≤ index ∧ index ≤ u.innerCount ∧
        ∃ fault, fault.IsUnknown ∧ u.resolvedAt block.evaluator index.toNat = .error fault := by
  constructor
  · rintro ⟨fault, hunknown, hanswer⟩
    by_cases hrange : index < 1 ∨ u.constraintCount < index
    · exact .inl hrange
    · right
      by_cases hle : index ≤ u.innerCount
      · obtain ⟨block, hb⟩ : ∃ block, u.inner = some block := by
          cases hb : u.inner with
          | some block => exact ⟨block, rfl⟩
          | none =>
              simp only [innerCount, hb] at hle
              omega
        rw [constraintAnswer_inner hb (by omega) hle] at hanswer
        exact ⟨block, hb, by omega, hle, fault, hunknown, hanswer⟩
      · have hlt : (index - u.innerCount - 1).toNat < u.constraints.length := by
          unfold constraintCount at hrange
          omega
        rw [constraintAnswer_local u (by omega), List.getElem?_eq_getElem hlt] at hanswer
        cases hanswer
  · rintro (hrange | ⟨block, hb, hpos, hle, fault, hunknown, hfault⟩)
    · exact ⟨.unknownPosition index, trivial, u.constraintAnswer_outside hrange⟩
    · exact ⟨fault, hunknown, (constraintAnswer_inner hb hpos hle).trans hfault⟩

/--
Whatever was asked before, answers are those of a new evaluator. A constraint index is unknown if it
is out of range, and else only if the nonlinear evaluator, or resolving what it gives, says so;
resolving fails at references to variables without positions. An index of the nonlinear evaluator
is asked for once if it is resolved, with each query if not, and else never.
-/
theorem answers_of_history (u : UnifiedEvaluator) (calls : List EvaluatorCall) (qs : List Query) :
    (∀ q calls', u.answer (u.stateAfterAll ⟨[], calls⟩ qs) q = u.answer ⟨[], calls'⟩ q) ∧
    (∀ index : Int, (∃ fault, Fault.IsUnknown fault ∧
        u.answer (u.stateAfterAll ⟨[], calls⟩ qs) (.constraint index) = .error fault) ↔
      (index < 1 ∨ u.constraintCount < index) ∨
      ∃ block, u.inner = some block ∧ 1 ≤ index ∧ index ≤ u.innerCount ∧
        ∃ fault, fault.IsUnknown ∧ u.resolvedAt block.evaluator index.toNat = .error fault) ∧
    (∀ index : Int, index < 1 ∨ u.constraintCount < index →
      u.answer (u.stateAfterAll ⟨[], calls⟩ qs) (.constraint index) =
        .error (.unknownPosition index)) ∧
    (∀ e : Expr, ((∃ e', e.resolve u.positions.position = .ok e') ∧
        ∀ v ∈ e.references, v ∈ u.positions.vars) ∨
      ∃ v ∈ e.references, v ∉ u.positions.vars ∧
        e.resolve u.positions.position = .error (.unknownVariable v)) ∧
    (∀ block, u.inner = some block → ∀ index : Int, 1 ≤ index → index ≤ u.innerCount →
      u.answer (u.stateAfterAll ⟨[], calls⟩ qs) (.constraint index) =
        (u.resolvedAt block.evaluator index.toNat).map .expression) ∧
    (∀ k e, u.constraints[k]? = some e →
      u.answer (u.stateAfterAll ⟨[], calls⟩ qs) (.constraint (u.innerCount + k + 1 : Nat)) =
        .ok (.expression e)) ∧
    (∀ block, u.inner = some block → ∀ i,
      requests block.evaluator i (u.stateAfterAll ⟨[], calls⟩ qs) =
        requests block.evaluator i ⟨[], calls⟩ + u.expectedRequests block.evaluator qs i) := by
  have hqueried := u.queried_stateAfterAll calls qs
  have hanswer : ∀ index, u.answer (u.stateAfterAll ⟨[], calls⟩ qs) (.constraint index) =
      (u.constraintAnswer index).map .expression := fun index => by
    rw [answer, hqueried.result_constraintExpression_int]
  refine ⟨fun q calls' => hqueried.answer_eq (.fresh calls') q, fun index => ?_, fun index h => ?_,
    u.resolve_cases, fun block hb index hpos hle => ?_, fun k e hk => ?_, fun block hb i => ?_⟩
  · simp only [hanswer, map_eq_error, ← constraintAnswer_unknown_iff]
  · rw [hanswer, u.constraintAnswer_outside h]
    rfl
  · rw [hanswer, constraintAnswer_inner hb hpos hle]
  · have hlocal : (((u.innerCount + k + 1 : Nat) : Int) - u.innerCount - 1).toNat = k := by omega
    rw [hanswer, constraintAnswer_local u (by omega), hlocal, hk]
    rfl
  · exact (recorded hb calls qs).requests i

/-- Its only constraint is on a variable that has no position. -/
def unplaced : UnifiedEvaluator where
  inner := some ⟨.ofExprs 0 none [.reference ⟨2⟩] [expressionGraphs], [(0, 1)], false⟩
  positions := ⟨[⟨1⟩], by decide⟩
  objective := none
  constraints := []

/-- An index in range is answered with an unknown variable. -/
theorem unknown_in_range : 1 ≤ (1 : Int) ∧ (1 : Int) ≤ unplaced.constraintCount ∧
    unplaced.answer ⟨[], []⟩ (.constraint 1) = .error (.unknownVariable ⟨2⟩) ∧
    (Fault.unknownVariable ⟨2⟩).IsUnknown :=
  ⟨by decide, by decide, rfl, trivial⟩

end UnifiedEvaluator

end Extremum
