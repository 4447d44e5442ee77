import Extremum.Proofs.Model.Store
import Extremum.Proofs.Problem.FeasibleSet

/-!
# Values of functions in problems

The expressions of a problem have the values of the functions that they are made from: the
comparison of a constraint that of its function, the objective that of the model, unless the model
has none or a trivial one. So a value can be computed from the model alone.
-/

namespace Extremum

/-! ## Expressions -/

theorem Expr.evaluate_inRegion {e e' : Expr} {r : Region} (h : e.inRegion r = .ok e')
    (x : List Float) : e'.evaluate x = e.evaluate x := by
  rw [evaluate, evaluate, compile_inRegion h]

/-- The function has no terms, and its constant is zero. -/
def ScalarFunction.isTrivial : ScalarFunction → Bool
  | affine [] c | quadratic [] [] c => c == 0
  | _ => false

theorem Expr.isTrivial_ofFunction {place : VariableId → Except Fault Nat} {f : ScalarFunction}
    {e : Expr} (h : ofFunction place f = .ok e) : e.isTrivial = f.isTrivial := by
  cases f with
  | single v =>
      obtain ⟨p, -, h⟩ := bind_eq_ok.1 h
      cases h
      rfl
  | affine terms c =>
      obtain ⟨es, hes, h⟩ := bind_eq_ok.1 h
      cases h
      cases mapM_eq_ok.1 hes <;> rfl
  | quadratic terms products c =>
      obtain ⟨qs, hqs, h⟩ := bind_eq_ok.1 h
      obtain ⟨es, hes, h⟩ := bind_eq_ok.1 h
      cases h
      cases mapM_eq_ok.1 hes <;> cases mapM_eq_ok.1 hqs <;> rfl

namespace Model

variable {m : Model} {p : Problem} {c : Constraint} {id : ConstraintId}

/-- The rank of a constraint among the algebraic ones, counted from one. -/
def rank (m : Model) (id : ConstraintId) : Nat :=
  (m.algebraicConstraints.map (·.id)).idxOf id + 1

theorem functionValue_eq {ps : Positions} {f : ScalarFunction} {e : Expr}
    (hps : Positions.ofList m.vars = .ok ps) (he : Expr.ofFunction ps.position f = .ok e)
    (x : List Float) : m.functionValue f x = e.evaluate x := by
  have hsteps : m.functionValue f x =
      (Expr.ofFunction ps.position f >>= fun e => e.evaluate x) := by
    rw [functionValue, hps]
    rfl
  rw [hsteps, he]
  rfl

theorem functionValue_single {v : VariableId} (hnodup : m.vars.Nodup) (hv : v ∈ m.vars)
    (x : List Float) : m.functionValue (.single v) x = readEntry x (m.vars.idxOf v : Int) := by
  have hps : Positions.ofList m.vars = .ok ⟨m.vars, hnodup⟩ :=
    Positions.ofList_eq_ok.2 ⟨hnodup, rfl⟩
  have he : Expr.ofFunction (Positions.mk m.vars hnodup).position (.single v) =
      .ok (.position (m.vars.idxOf v + 1 : Nat)) :=
    bind_eq_ok.2 ⟨_, Positions.position_of_mem hv, rfl⟩
  have hindex : ((m.vars.idxOf v + 1 : Nat) : Int) - 1 = m.vars.idxOf v := by omega
  rw [functionValue_eq hps he, Expr.evaluate, Expr.compile]
  show readEntry x (((m.vars.idxOf v + 1 : Nat) : Int) - 1) = _
  rw [hindex]

theorem mem_of_find? (h : m.find? id = some c) : c ∈ m.constraints ∧ c.id = id :=
  ⟨List.mem_of_find?_eq_some h, by simpa using List.find?_some h⟩

theorem Reachable.getElem?_rank (h : m.Reachable) (hfind : m.find? id = some c)
    (ha : c.IsAlgebraic) : m.algebraicConstraints[m.rank id - 1]? = some c := by
  obtain ⟨hc, rfl⟩ := mem_of_find? hfind
  have hmem : c ∈ m.algebraicConstraints := h.wellFormed.mem_algebraicConstraints.2 ⟨hc, ha⟩
  have hentry := List.getElem?_idxOf (List.mem_map_of_mem (f := Constraint.id) hmem)
  rw [List.getElem?_map, Option.map_eq_some_iff] at hentry
  obtain ⟨c', hc', hid⟩ := hentry
  have hmem' : c' ∈ m.constraints :=
    (h.wellFormed.mem_algebraicConstraints.1 (List.mem_of_getElem? hc')).1
  rw [rank, Nat.add_sub_cancel, hc', List.inj_on_of_nodup_map h.nodup_ids hmem' hc hid]

/-- The comparison of an algebraic constraint has the value of its function. -/
theorem Reachable.constraintExpression_eq (h : m.Reachable) (hp : m.problem = .ok p)
    (hfind : m.find? id = some c) (ha : c.IsAlgebraic) (s : EvaluatorState) :
    ∃ e, p.evaluator.constraintExpression (m.nonlinearBounds.length + m.rank id : Nat) s =
      .ok e s ∧ ∀ x, e.evaluate x = m.functionValue c.function x := by
  obtain ⟨ps, rows, objective, hps, hrows, -, rfl⟩ := h.wellFormed.problem_eq_ok.1 hp
  obtain ⟨row, hrow, hof⟩ := getElem?_of_mapM hrows (h.getElem?_rank hfind ha)
  obtain ⟨e', he', hof⟩ := bind_eq_ok.1 hof
  obtain ⟨e, he, hin⟩ := bind_eq_ok.1 he'
  obtain ⟨range, -, hof⟩ := bind_eq_ok.1 hof
  cases pure_eq_ok.1 hof
  refine ⟨e', constraintExpression_row hrow, fun x => ?_⟩
  rw [Expr.evaluate_inRegion hin, functionValue_eq hps he]

/-! ## The objective -/

/-- An objective is asked for, and it is not just zero. -/
def HasObjective (m : Model) : Prop := m.sense ≠ .feasibility ∧ m.objective.isTrivial = false

theorem objectiveExpression_cases {place : VariableId → Except Fault Nat} {o : Option Expr}
    (h : m.objectiveExpression place = .ok o) :
    (m.HasObjective ∧ ∃ e, Expr.ofFunction place m.objective = .ok e ∧ o = some e) ∨
      (¬ m.HasObjective ∧ o = none) := by
  unfold objectiveExpression at h
  split at h
  · rename_i hsense
    cases h
    exact .inr ⟨fun hhas => hhas.1 hsense, rfl⟩
  · rename_i hsense
    obtain ⟨e, he, h⟩ := bind_eq_ok.1 h
    rw [Expr.isTrivial_ofFunction he] at h
    cases htrivial : m.objective.isTrivial with
    | true =>
        rw [htrivial] at h
        cases h
        exact .inr ⟨fun hhas => Bool.noConfusion (htrivial.symm.trans hhas.2), rfl⟩
    | false =>
        rw [htrivial] at h
        cases h
        exact .inl ⟨⟨hsense, htrivial⟩, e, he, rfl⟩

/-- An objective that is not trivial has the value of its function. -/
theorem objective_of_problem (hp : m.problem = .ok p) (hsense : m.sense ≠ .feasibility)
    (htrivial : m.objective.isTrivial = false) :
    ∃ e, p.evaluator.objective = some e ∧ ∀ x, e.evaluate x = m.functionValue m.objective x := by
  obtain ⟨ps, rows, objective, hps, -, hobjective, hu, -⟩ := evaluator_of_problem hp
  rw [hu]
  rcases objectiveExpression_cases hobjective with ⟨-, e, he, rfl⟩ | ⟨hnone, -⟩
  · exact ⟨e, rfl, fun x => (functionValue_eq hps he x).symm⟩
  · exact absurd ⟨hsense, htrivial⟩ hnone

end Model

end Extremum
