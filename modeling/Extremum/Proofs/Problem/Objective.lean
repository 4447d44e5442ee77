import Extremum.Proofs.Evaluator.Answers
import Extremum.Proofs.Problem.Values

/-!
# The objective of a problem

A model may have an objective of its own, and its nonlinear block may supply one. The problem of the
model takes the first of these that there is; without any, its objective is zero. Deleting variables
may leave nothing of the model's own objective, and then the block's comes into its place.
-/

namespace Extremum

namespace Model

variable {m : Model}

/--
In every model that edits lead to, the problem has the objective of the model, else that of the
nonlinear block, else zero. An objective of the model that is asked for counts unless it has no
terms and is zero. Only the sense to maximize makes a problem one of maximizing.
-/
theorem Reachable.objective_selected (h : m.Reachable) :
    ∃ p ps, m.problem = .ok p ∧ Positions.ofList m.vars = .ok ps ∧
      (p.direction = .maximize ↔ m.sense = .maximize) ∧ ∀ s, p.evaluator.Queried s →
        (m.HasObjective → ∃ e, Expr.ofFunction ps.position m.objective = .ok e ∧
          resultOf (p.evaluator.objectiveExpression s) = .ok e) ∧
        (¬ m.HasObjective → ∀ block, m.block = some block → block.hasObjective = true →
          resultOf (p.evaluator.objectiveExpression s) =
            block.evaluator.objective >>= fun e => e.resolve ps.position) ∧
        (¬ m.HasObjective → (∀ block, m.block = some block → block.hasObjective = false) →
          resultOf (p.evaluator.objectiveExpression s) = .ok (.constant 0)) := by
  obtain ⟨p, hp⟩ := h.wellFormed.problem_ok
  obtain ⟨ps, rows, objective, hps, -, hobjective, rfl⟩ := h.wellFormed.problem_eq_ok.1 hp
  refine ⟨_, ps, hp, hps, ?_, fun s hs => ?_⟩
  · show m.direction = .maximize ↔ _
    unfold direction
    split <;> simp [*]
  · have hanswer := hs.result_objectiveExpression
    rcases objectiveExpression_cases hobjective with ⟨hhas, e, he, rfl⟩ | ⟨hnone, rfl⟩
    · exact ⟨fun _ => ⟨e, he, hanswer⟩, fun hnot => absurd hhas hnot, fun hnot => absurd hhas hnot⟩
    · refine ⟨fun hhas => absurd hhas hnone, fun _ block hb hblock => ?_, fun _ hno => ?_⟩
      · rw [hanswer]
        simp only [UnifiedEvaluator.objectiveAnswer, problemWith, problemEvaluator, hb, hblock,
          ↓reduceIte]
        rfl
      · rw [hanswer]
        cases hb : m.block with
        | none => simp only [UnifiedEvaluator.objectiveAnswer, problemWith, problemEvaluator, hb]
        | some block =>
            simp only [UnifiedEvaluator.objectiveAnswer, problemWith, problemEvaluator, hb,
              hno block hb,              Bool.false_eq_true, ↓reduceIte]

/-- A model of two variables; the first one is to be large, and the block supplies the second. -/
def firstOfTwo : List Edit :=
  [.addVariables 2,
    .setBlock (some ⟨.ofExprs 0 (some (.reference ⟨2⟩)) [] [expressionGraphs], [], true⟩),
    .setObjective (.function (.affine [⟨3, ⟨1⟩⟩] 0)) (.text "max")]

/-- With its last term, the objective of the model goes; that of the block takes its place. -/
theorem objective_selected_firstOfTwo :
    (∃ p, (empty.performAll firstOfTwo).problem = .ok p ∧ p.direction = .maximize ∧
      ∀ s, p.evaluator.Queried s → resultOf (p.evaluator.objectiveExpression s) =
        .ok (.sum [.constant 0, .product [.constant 3, .position 1]])) ∧
    ∃ p, (empty.performAll (firstOfTwo ++ [.deleteVariable ⟨1⟩])).problem = .ok p ∧
      p.direction = .maximize ∧
      ∀ s, p.evaluator.Queried s →
        resultOf (p.evaluator.objectiveExpression s) = .ok (.position 1) := by
  constructor
  · have hreachable : (empty.performAll firstOfTwo).Reachable := Reachable.empty.performAll _
    have hhas : (empty.performAll firstOfTwo).HasObjective := ⟨by decide +kernel, rfl⟩
    obtain ⟨p, ps, hp, hps, hsense, hanswers⟩ := hreachable.objective_selected
    refine ⟨p, hp, hsense.2 (by decide +kernel), fun s hs => ?_⟩
    obtain ⟨e, he, hanswer⟩ := (hanswers s hs).1 hhas
    cases hps
    cases he
    exact hanswer
  · have hreachable : (empty.performAll (firstOfTwo ++ [.deleteVariable ⟨1⟩])).Reachable :=
      Reachable.empty.performAll _
    have hnone : ¬ (empty.performAll (firstOfTwo ++ [.deleteVariable ⟨1⟩])).HasObjective :=
      fun hhas => absurd hhas.2 (by decide +kernel)
    obtain ⟨p, ps, hp, hps, hsense, hanswers⟩ := hreachable.objective_selected
    refine ⟨p, hp, hsense.2 (by decide +kernel), fun s hs => ?_⟩
    cases hps
    exact (hanswers s hs).2.1 hnone _ rfl rfl

end Model

end Extremum
