import Extremum.Evaluator.Unified
import Extremum.Proofs.Success

/-!
# Answers of unified evaluators

A unified evaluator keeps the expressions that it has resolved. Its answers do not depend on what it
has kept so far: after any queries, each answer is what the nonlinear evaluator gives, resolved
anew, or one of the expressions that were there from the start.
-/

namespace Extremum

/-- The state in which a query ends. -/
def EvaluatorState.after {α : Type} : EStateM.Result Fault EvaluatorState α → EvaluatorState
  | .ok _ s => s
  | .error _ s => s

namespace UnifiedEvaluator

/-- A query to a unified evaluator. -/
inductive Query where
  | prepare (features : List String)
  | features
  | objective
  | constraint (index : Int)

/-- The state after a query, whether it is answered or fails. -/
def stateAfter (u : UnifiedEvaluator) (s : EvaluatorState) : Query → EvaluatorState
  | .prepare features => .after (u.prepare features s)
  | .features => .after (u.features s)
  | .objective => .after (u.objectiveExpression s)
  | .constraint index => .after (u.constraintExpression index s)

/-- The states that queries lead to from any in which nothing is resolved yet. -/
inductive Queried (u : UnifiedEvaluator) : EvaluatorState → Prop where
  | fresh (calls : List EvaluatorCall) : u.Queried ⟨[], calls⟩
  | query {s : EvaluatorState} (q : Query) : u.Queried s → u.Queried (u.stateAfter s q)

/-- What a nonlinear evaluator gives for an index, resolved to positions. -/
def resolvedAt (u : UnifiedEvaluator) (evaluator : NonlinearEvaluator) (index : Nat) :
    Except Fault Expr :=
  given evaluator index >>= fun e => e.resolve u.positions.position

/-- All that is kept is what the nonlinear evaluator gives. -/
def Faithful (u : UnifiedEvaluator) (s : EvaluatorState) : Prop :=
  ∀ i e, s.resolved.lookup i = some e →
    ∃ block, u.inner = some block ∧ u.resolvedAt block.evaluator i = .ok e

variable {u : UnifiedEvaluator} {s : EvaluatorState} {block : NonlinearBlock} {i : Nat}
  {e : Expr}

/-! ## Preparing and features -/

/-- What comes of asking to prepare for features. -/
def preparation (u : UnifiedEvaluator) (names : List String) : Except Fault Unit :=
  match u.inner with
  | some block => block.evaluator.prepare names
  | none => .ok ()

/-- What comes of asking for the features. -/
def available (u : UnifiedEvaluator) : Except Fault (List String) :=
  match u.inner with
  | some block => block.evaluator.features
  | none => .ok [expressionGraphs]

/-- The state after the nonlinear evaluator was asked something. -/
def noted (evaluator : NonlinearEvaluator) (question : EvaluatorQuestion) (s : EvaluatorState) :
    EvaluatorState :=
  { s with calls := s.calls ++ [⟨evaluator.id, question⟩] }

theorem resultOf_prepare (u : UnifiedEvaluator) (names : List String) (s : EvaluatorState) :
    resultOf (u.prepare names s) = u.preparation names := by
  unfold prepare preparation
  cases u.inner with
  | none => rfl
  | some block =>
      show resultOf (EStateM.bind (record block.evaluator _) _ s) = _
      dsimp only
      cases block.evaluator.prepare names <;> rfl

theorem resultOf_features (u : UnifiedEvaluator) (s : EvaluatorState) :
    resultOf (u.features s) = u.available := by
  unfold UnifiedEvaluator.features available
  cases u.inner with
  | none => rfl
  | some block =>
      show resultOf (EStateM.bind (record block.evaluator _) _ s) = _
      dsimp only
      cases block.evaluator.features <;> rfl

/-- The question is noted even if it is answered with a fault. -/
theorem stateAfter_prepare (u : UnifiedEvaluator) (names : List String) (s : EvaluatorState) :
    u.stateAfter s (.prepare names) =
      match u.inner with
      | some block => noted block.evaluator (.prepare names) s
      | none => s := by
  unfold stateAfter prepare
  cases u.inner with
  | none => rfl
  | some block =>
      show EvaluatorState.after (EStateM.bind (record block.evaluator _) _ s) = _
      dsimp only
      cases block.evaluator.prepare names <;> rfl

theorem stateAfter_features (u : UnifiedEvaluator) (s : EvaluatorState) :
    u.stateAfter s .features =
      match u.inner with
      | some block => noted block.evaluator .features s
      | none => s := by
  unfold stateAfter UnifiedEvaluator.features
  cases u.inner with
  | none => rfl
  | some block =>
      show EvaluatorState.after (EStateM.bind (record block.evaluator _) _ s) = _
      dsimp only
      cases block.evaluator.features <;> rfl

/-! ## One query for an expression -/

/-- The state after the nonlinear evaluator was asked for an index. -/
def asked (evaluator : NonlinearEvaluator) (i : Nat) (s : EvaluatorState) : EvaluatorState :=
  noted evaluator (questionFor i) s

/-- What is kept is given out again; all else is asked for and resolved. -/
theorem innerExpression_eq (u : UnifiedEvaluator) (evaluator : NonlinearEvaluator) (i : Nat)
    (s : EvaluatorState) : u.innerExpression evaluator i s =
      match s.resolved.lookup i with
      | some e => .ok e s
      | none =>
        match u.resolvedAt evaluator i with
        | .ok e => .ok e { asked evaluator i s with resolved := (i, e) :: s.resolved }
        | .error fault => .error fault (asked evaluator i s) := by
  show (match s.resolved.lookup i with
    | some e => pure e
    | none => do
      record evaluator (questionFor i)
      let e ← MonadExcept.ofExcept (given evaluator i)
      let e ← MonadExcept.ofExcept (e.resolve u.positions.position)
      modify fun s => { s with resolved := (i, e) :: s.resolved }
      return e : EvaluatorM Expr) s = _
  cases s.resolved.lookup i with
  | some e => rfl
  | none =>
      unfold resolvedAt
      show EStateM.bind (MonadExcept.ofExcept (given evaluator i)) _ (asked evaluator i s) = _
      cases given evaluator i with
      | error fault => rfl
      | ok e =>
          show EStateM.bind (MonadExcept.ofExcept (e.resolve u.positions.position)) _
            (asked evaluator i s) = _
          simp only [bind, Except.bind]
          cases e.resolve u.positions.position <;> rfl

theorem constraintExpression_inner (hb : u.inner = some block) (hi : i < block.bounds.length)
    (s : EvaluatorState) : u.constraintExpression (i + 1 : Nat) s =
      u.innerExpression block.evaluator (i + 1) s := by
  unfold constraintExpression
  rw [if_neg (by omega), hb]
  simp only [Int.toNat_natCast]
  rw [if_pos (by omega)]

theorem constraintExpression_beyond (u : UnifiedEvaluator) (k : Nat) (s : EvaluatorState) :
    u.constraintExpression (u.innerCount + k + 1 : Nat) s =
      u.algebraicConstraint (u.innerCount + k + 1 : Nat) s := by
  unfold constraintExpression
  rw [if_neg (by omega)]
  cases hb : u.inner with
  | none => rfl
  | some block =>
      have hcount : u.innerCount = block.bounds.length := by rw [innerCount, hb]
      dsimp only
      rw [if_neg (by omega)]

theorem objectiveExpression_inner (ho : u.objective = none) (hb : u.inner = some block)
    (hobjective : block.hasObjective = true) (s : EvaluatorState) :
    u.objectiveExpression s = u.innerExpression block.evaluator 0 s := by
  unfold objectiveExpression
  rw [ho, hb]
  simp only [hobjective, ↓reduceIte]

/-- At most one expression is kept more than before: one that the nonlinear evaluator gives. -/
def Keeps (u : UnifiedEvaluator) (s s' : EvaluatorState) : Prop :=
  s'.resolved = s.resolved ∨ ∃ block i e, u.inner = some block ∧
    u.resolvedAt block.evaluator i = .ok e ∧ s'.resolved = (i, e) :: s.resolved

theorem keeps_innerExpression (hb : u.inner = some block) (i : Nat) (s : EvaluatorState) :
    u.Keeps s (.after (u.innerExpression block.evaluator i s)) := by
  rw [innerExpression_eq]
  cases s.resolved.lookup i with
  | some e => exact .inl rfl
  | none =>
      cases he : u.resolvedAt block.evaluator i with
      | error fault => exact .inl rfl
      | ok e => exact .inr ⟨block, i, e, hb, he, rfl⟩

theorem keeps_algebraicConstraint (u : UnifiedEvaluator) (index : Int) (s : EvaluatorState) :
    u.Keeps s (.after (u.algebraicConstraint index s)) := by
  unfold algebraicConstraint
  cases u.constraints[(index - u.innerCount - 1).toNat]? <;> exact .inl rfl

theorem keeps_objectiveExpression (u : UnifiedEvaluator) (s : EvaluatorState) :
    u.Keeps s (.after (u.objectiveExpression s)) := by
  cases ho : u.objective with
  | some e =>
      simp only [objectiveExpression, ho]
      exact .inl rfl
  | none =>
      cases hb : u.inner with
      | none =>
          simp only [objectiveExpression, ho, hb]
          exact .inl rfl
      | some block =>
          cases hobjective : block.hasObjective with
          | false =>
              simp only [objectiveExpression, ho, hb, hobjective]
              exact .inl rfl
          | true =>
              rw [objectiveExpression_inner ho hb hobjective]
              exact keeps_innerExpression hb 0 s

theorem keeps_constraintExpression (u : UnifiedEvaluator) (index : Int) (s : EvaluatorState) :
    u.Keeps s (.after (u.constraintExpression index s)) := by
  unfold constraintExpression
  split
  · exact .inl rfl
  · cases hb : u.inner with
    | none => exact u.keeps_algebraicConstraint index s
    | some block =>
        dsimp only
        split
        · exact keeps_innerExpression hb index.toNat s
        · exact u.keeps_algebraicConstraint index s

theorem keeps_stateAfter (u : UnifiedEvaluator) (s : EvaluatorState) (q : Query) :
    u.Keeps s (u.stateAfter s q) := by
  cases q with
  | prepare features =>
      left
      rw [stateAfter_prepare]
      cases u.inner <;> rfl
  | features =>
      left
      rw [stateAfter_features]
      cases u.inner <;> rfl
  | objective => exact u.keeps_objectiveExpression s
  | constraint index => exact u.keeps_constraintExpression index s

/-! ## Any number of queries -/

theorem Faithful.stateAfter (h : u.Faithful s) (q : Query) : u.Faithful (u.stateAfter s q) := by
  intro j e' hlookup
  rcases u.keeps_stateAfter s q with hsame | ⟨block, i, e, hb, he, hmore⟩
  · rw [hsame] at hlookup
    exact h j e' hlookup
  · rw [hmore, List.lookup_cons] at hlookup
    by_cases hj : j = i
    · subst hj
      simp only [beq_self_eq_true] at hlookup
      cases hlookup
      exact ⟨block, hb, he⟩
    · simp only [beq_false_of_ne hj] at hlookup
      exact h j e' hlookup

theorem Queried.faithful (h : u.Queried s) : u.Faithful s := by
  induction h with
  | fresh calls =>
      intro i e hlookup
      cases hlookup
  | query q _ ih => exact ih.stateAfter q

/-- Whatever was asked before, the nonlinear evaluator seems to be asked anew. -/
theorem Queried.result_innerExpression (h : u.Queried s) (hb : u.inner = some block) (i : Nat) :
    resultOf (u.innerExpression block.evaluator i s) = u.resolvedAt block.evaluator i := by
  rw [innerExpression_eq]
  cases hlookup : s.resolved.lookup i with
  | some e =>
      obtain ⟨block', hb', he⟩ := h.faithful i e hlookup
      cases hb.symm.trans hb'
      exact he.symm
  | none => cases u.resolvedAt block.evaluator i <;> rfl

/-! ## Answers -/

/-- The answers for the nonlinear constraints, in order. -/
def innerAnswers (u : UnifiedEvaluator) : List (Except Fault Expr) :=
  match u.inner with
  | some block =>
    (List.range block.bounds.length).map fun i => u.resolvedAt block.evaluator (i + 1)
  | none => []

/-- The answers for all constraints, in order. -/
def answers (u : UnifiedEvaluator) : List (Except Fault Expr) :=
  u.innerAnswers ++ u.constraints.map .ok

theorem length_innerAnswers (u : UnifiedEvaluator) : u.innerAnswers.length = u.innerCount := by
  unfold innerAnswers innerCount
  cases u.inner <;> simp

theorem result_algebraicConstraint (u : UnifiedEvaluator) (k : Nat) (s : EvaluatorState) :
    resultOf (u.algebraicConstraint (u.innerCount + k + 1 : Nat) s) =
      ((u.constraints.map .ok)[k]?).getD
        (.error (.unknownPosition (u.innerCount + k + 1 : Nat))) := by
  have hindex : (((u.innerCount + k + 1 : Nat) : Int) - u.innerCount - 1).toNat = k := by omega
  unfold algebraicConstraint
  rw [hindex, List.getElem?_map]
  cases u.constraints[k]? <;> rfl

/-- The answer for the objective. -/
def objectiveAnswer (u : UnifiedEvaluator) : Except Fault Expr :=
  match u.objective, u.inner with
  | some e, _ => .ok e
  | none, some block =>
    if block.hasObjective then u.resolvedAt block.evaluator 0 else .ok (.constant 0)
  | none, none => .ok (.constant 0)

/-- Whatever was asked before, the answer for the objective is the same. -/
theorem Queried.result_objectiveExpression (h : u.Queried s) :
    resultOf (u.objectiveExpression s) = u.objectiveAnswer := by
  cases ho : u.objective with
  | some e => simp only [objectiveExpression, objectiveAnswer, ho]; rfl
  | none =>
      cases hb : u.inner with
      | none => simp only [objectiveExpression, objectiveAnswer, ho, hb]; rfl
      | some block =>
          cases hobjective : block.hasObjective with
          | false => simp only [objectiveExpression, objectiveAnswer, ho, hb, hobjective]; rfl
          | true =>
              rw [objectiveExpression_inner ho hb hobjective, h.result_innerExpression hb,
                objectiveAnswer, ho, hb]
              simp only [hobjective, ↓reduceIte]

/-- Whatever was asked before, an index leads to the answer at its place, if there is one. -/
theorem Queried.result_constraintExpression (h : u.Queried s) (i : Nat) :
    resultOf (u.constraintExpression (i + 1 : Nat) s) =
      (u.answers[i]?).getD (.error (.unknownPosition (i + 1 : Nat))) := by
  by_cases hi : i < u.innerCount
  · obtain ⟨block, hb⟩ : ∃ block, u.inner = some block := by
      cases hb : u.inner with
      | some block => exact ⟨block, rfl⟩
      | none => simp [innerCount, hb] at hi
    have hlt : i < block.bounds.length := by simpa [innerCount, hb] using hi
    rw [constraintExpression_inner hb hlt, h.result_innerExpression hb, answers,
      List.getElem?_append_left (by rwa [length_innerAnswers])]
    simp [innerAnswers, hb, hlt]
  · obtain ⟨k, rfl⟩ := Nat.exists_eq_add_of_le (Nat.le_of_not_lt hi)
    have hlength : u.innerAnswers.length ≤ u.innerCount + k := by
      rw [length_innerAnswers]
      omega
    rw [constraintExpression_beyond, result_algebraicConstraint, answers,
      List.getElem?_append_right hlength, length_innerAnswers, Nat.add_sub_cancel_left]

end UnifiedEvaluator

end Extremum
