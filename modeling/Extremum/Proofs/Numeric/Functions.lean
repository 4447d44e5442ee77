import Extremum.Proofs.Evaluator.Answers
import Extremum.Proofs.Expr.Evaluation
import Extremum.Proofs.Numeric.Solve

/-!
# Functions of problems

The functions that a minimizer asks for are compiled from the answers of the evaluator of a problem,
whatever it was asked before. They are there if the evaluator can be prepared, offers expression
graphs, and gives expressions that compile.
-/

namespace Extremum

/-- What an evaluator offers once it has been prepared for expression graphs. -/
def UnifiedEvaluator.offered (u : UnifiedEvaluator) : Except Fault (List String) :=
  u.preparation [expressionGraphs] >>= fun _ => u.available

namespace Numeric

open UnifiedEvaluator

/-- An answer of the evaluator compiles to a function of the variables. -/
def CompilesTo (p : Problem) (answer : Except Fault Expr) (g : Compiled) : Prop :=
  ∃ e, answer = .ok e ∧ e.compile = .ok g ∧ ∀ q ∈ e.positions, 1 ≤ q ∧ q ≤ p.variableCount

/-- The functions are what the objective and the constraints of a problem compile to. -/
structure Compiles (p : Problem) (f : Functions) : Prop where
  objective : CompilesTo p p.evaluator.objectiveAnswer f.objective
  constraints : List.Forall₂ (CompilesTo p) p.evaluator.answers f.constraints
  sign : f.sign = p.direction.sign
  rows : f.rows = normalRows p

variable {p : Problem} {f : Functions} {e e' : EvaluatorState}

theorem length_answers (p : Problem) : p.evaluator.answers.length = p.constraintCount := by
  rw [answers, List.length_append, length_innerAnswers, List.length_map, ← p.evaluator_count]
  rfl

theorem Compiles.length_constraints (hf : Compiles p f) :
    f.constraints.length = p.constraintCount := by
  rw [← hf.constraints.length_eq, length_answers]

theorem Compiles.constraints_at (hf : Compiles p f) : List.Forall₂
    (fun i g => ∃ e, p.evaluator.answers[i]? = some (.ok e) ∧ e.compile = .ok g)
    (List.range p.constraintCount) f.constraints := by
  refine List.forall₂_iff_get.2
    ⟨by rw [List.length_range, hf.length_constraints], fun i hi hi' => ?_⟩
  rw [List.length_range] at hi
  obtain ⟨e, he, hcompile, -⟩ :=
    (List.forall₂_iff_get.1 hf.constraints).2 i (by rwa [length_answers]) hi'
  refine ⟨e, ?_, hcompile⟩
  rw [List.get_eq_getElem, List.getElem_range, List.getElem?_eq_getElem (by rwa [length_answers])]
  exact congrArg some he

/-- What the answer for a constraint compiles to, counted from zero. -/
def constraintAnswer (u : UnifiedEvaluator) (i : Nat) : Except Fault Compiled :=
  (u.answers[i]?).getD (.error (.unknownPosition (i + 1 : Nat))) >>= Expr.compile

/-- The functions of a problem, made of the answers of its evaluator. -/
def answeredFunctions (p : Problem) : Except Fault Functions := do
  let names ← p.evaluator.offered
  if expressionGraphs ∉ names then
    throw (.solverFailure "The evaluator does not provide expression graphs")
  let objective ← p.evaluator.objectiveAnswer >>= Expr.compile
  let constraints ← (List.range p.constraintCount).mapM (constraintAnswer p.evaluator)
  return {
    objective := objective
    constraints := constraints
    sign := p.direction.sign
    rows := normalRows p }

theorem resultOf_compiled (query : EvaluatorM Expr) (e : EvaluatorState) :
    resultOf (compiled query e) = resultOf (query e) >>= Expr.compile := by
  refine resultOf_bind rfl fun expression e' _ => ?_
  cases expression.compile <;> rfl

theorem state_of_compiled {query : EvaluatorM Expr} {g : Compiled}
    (h : compiled query e = .ok g e') : .after (query e) = e' := by
  obtain ⟨expression, hquery, -⟩ := compiled_eq_ok.1 h
  rw [hquery]
  rfl

/-- The functions are those of the answers, whatever the evaluator was asked before. -/
theorem resultOf_functions (he : p.evaluator.Queried e) :
    resultOf (functions p e) = answeredFunctions p := by
  unfold functions answeredFunctions offered
  rw [bind_assoc]
  refine resultOf_bind (resultOf_prepare ..) fun _ e₁ hprepare => ?_
  refine resultOf_bind (resultOf_features ..) fun names e₂ hfeatures => ?_
  have hqueried : p.evaluator.Queried e₂ := by
    have h := (he.query (.prepare [expressionGraphs])).query .features
    simp only [stateAfter, hprepare, EvaluatorState.after, hfeatures] at h
    exact h
  by_cases hoffered : expressionGraphs ∈ names
  · rw [if_neg (by simpa using hoffered), if_neg (not_not.2 hoffered)]
    refine resultOf_bind ?_ fun objective e₃ hobjective => resultOf_bind ?_ fun _ _ _ => rfl
    · rw [resultOf_compiled, hqueried.result_objectiveExpression]
    · have he₃ : p.evaluator.Queried e₃ :=
        state_of_compiled hobjective ▸ hqueried.query .objective
      refine resultOf_mapM (fun i e he => ?_) (fun i e g e' he hg => ?_) _ he₃
      · rw [resultOf_compiled, he.result_constraintExpression]
        rfl
      · exact state_of_compiled hg ▸ he.query (.constraint (i + 1 : Nat))
  · rw [if_pos (by simpa using hoffered), if_pos hoffered]
    rfl

/-- What functions made of answers consist of. -/
theorem answeredFunctions_eq_ok (h : answeredFunctions p = .ok f) :
    (p.evaluator.objectiveAnswer >>= Expr.compile) = .ok f.objective ∧
      (List.range p.constraintCount).mapM (constraintAnswer p.evaluator) = .ok f.constraints ∧
      f.sign = p.direction.sign ∧ f.rows = normalRows p := by
  obtain ⟨names, -, h⟩ := bind_eq_ok.1 h
  split at h
  · cases h
  obtain ⟨objective, hobjective, h⟩ := bind_eq_ok.1 h
  obtain ⟨constraints, hconstraints, h⟩ := bind_eq_ok.1 h
  cases pure_eq_ok.1 h
  exact ⟨hobjective, hconstraints, rfl, rfl⟩

theorem Compiles.answeredFunctions_eq {names : List String} (hf : Compiles p f)
    (hnames : p.evaluator.offered = .ok names) (hoffered : expressionGraphs ∈ names) :
    answeredFunctions p = .ok f := by
  obtain ⟨expression, hanswer, hcompile, -⟩ := hf.objective
  have hobjective : (p.evaluator.objectiveAnswer >>= Expr.compile) = .ok f.objective :=
    bind_eq_ok.2 ⟨expression, hanswer, hcompile⟩
  have hconstraints :
      (List.range p.constraintCount).mapM (constraintAnswer p.evaluator) = .ok f.constraints := by
    refine mapM_eq_ok.2 (hf.constraints_at.imp fun i g => ?_)
    rintro ⟨e, hanswer, hcompile⟩
    rw [constraintAnswer, hanswer]
    exact hcompile
  unfold answeredFunctions
  rw [hnames, hobjective, hconstraints, ← hf.sign, ← hf.rows]
  refine bind_eq_ok.2 ⟨names, rfl, ?_⟩
  rw [if_neg (not_not.2 hoffered)]
  rfl

end Numeric

end Extremum
