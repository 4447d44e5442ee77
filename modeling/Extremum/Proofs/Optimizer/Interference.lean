import Extremum.Proofs.Expr.Evaluation
import Extremum.Proofs.Optimizer.Conduct

/-!
# Edits while a solve is in progress

A solver may edit the model that it was called for. The point that it returns is kept all the same,
for the variables that the model had when the solve began. Variables that were added since have no
value there, and constraints on them none either; of those that are gone the value is still kept.
-/

namespace Extremum

/-- The variables that a snapshot holds values of. -/
def Snapshot.vars (s : Snapshot) : List VariableId := s.primal.map (·.1)

namespace Snapshot

variable {s : Snapshot} {v : VariableId}

theorem value_of_mem (hv : v ∈ s.vars) : ∃ x, s.value v = .ok x := by
  unfold value
  cases hlookup : s.primal.lookup v with
  | some x => exact ⟨x, rfl⟩
  | none =>
      obtain ⟨entry, hentry, rfl⟩ := List.mem_map.1 hv
      have hne := List.lookup_eq_none_iff.1 hlookup entry hentry
      simp at hne

theorem value_of_not_mem (hv : v ∉ s.vars) : s.value v = .error (.noValue v) := by
  have hlookup : s.primal.lookup v = none := by
    refine List.lookup_eq_none_iff.2 fun entry hentry => ?_
    have hne : v ≠ entry.1 := fun h => hv (h ▸ List.mem_map_of_mem hentry)
    simpa using hne
  rw [value, hlookup]

end Snapshot

namespace Optimizer

open World

variable {σ : Type} {o : Optimizer} {s : Snapshot} {v : VariableId} {id : ConstraintId}
  {c : Constraint} {provider : SolverProvider σ} {w : World σ}

/-! ## Queries for a point -/

theorem variablePrimal_eq (hs : o.feasible? = some s) (hv : v ∈ o.model.vars) :
    o.variablePrimal v = (s.value v).map some := by
  unfold variablePrimal
  rw [Model.checkVariable, if_pos hv, hs]
  cases h : s.value v <;> simp [bind, Except.bind, Except.map, pure, Except.pure, h]

theorem constraintPrimal_eq (hs : o.feasible? = some s) (hc : o.model.find? id = some c)
    (hnodup : s.vars.Nodup) : o.constraintPrimal id =
      (Expr.ofFunction (Positions.mk s.vars hnodup).position c.function >>= fun e =>
        (e.evaluate (s.primal.map (·.2))).map some) := by
  have hps : Positions.ofList (s.primal.map (·.1)) = .ok ⟨s.vars, hnodup⟩ :=
    Positions.ofList_eq_ok.2 ⟨hnodup, rfl⟩
  unfold constraintPrimal
  rw [Model.constraint, hc, hs]
  simp only [bind, Except.bind, hps]
  cases Expr.ofFunction (Positions.mk s.vars hnodup).position c.function with
  | error fault => rfl
  | ok e =>
      dsimp only
      cases e.evaluate (s.primal.map (·.2)) <;> rfl

/-- The value of a constraint lacks a variable if and only if its function has one without value. -/
theorem constraintPrimal_unknown_iff (hs : o.feasible? = some s)
    (hc : o.model.find? id = some c) (hnodup : s.vars.Nodup) :
    (∃ v, o.constraintPrimal id = .error (.unknownVariable v)) ↔
      ∃ v ∈ c.function.vars, v ∉ s.vars := by
  rw [constraintPrimal_eq hs hc hnodup]
  constructor
  · rintro ⟨v, h⟩
    rcases bind_eq_error.1 h with h | ⟨e, -, h⟩
    · obtain ⟨v', hv', hplace⟩ := Expr.exists_of_ofFunction_error h
      exact ⟨v', hv', (Positions.position_eq_error hplace).1⟩
    · exact absurd (map_eq_error.1 h) (Expr.evaluate_ne_unknownVariable v)
  · rintro ⟨v, hv, hnot⟩
    cases he : Expr.ofFunction (Positions.mk s.vars hnodup).position c.function with
    | ok e =>
        obtain ⟨p, hp⟩ := Expr.exists_place_of_ofFunction he hv
        exact absurd (Positions.mem_of_position hp) hnot
    | error fault =>
        obtain ⟨v', -, hplace⟩ := Expr.exists_of_ofFunction_error he
        obtain ⟨-, rfl⟩ := Positions.position_eq_error hplace
        exact ⟨v', rfl⟩

/-! ## The point that a solve leaves -/

/-- A feasible point is for the variables that the model had when the solve began. -/
theorem vars_of_optimize (hok : resultOf (optimize provider w) = .ok ())
    (hs : (after (optimize provider w)).optimizer.feasible? = some s) :
    s.vars = w.optimizer.model.vars ∧ s.vars.Nodup := by
  have hidle : w.optimizer.inProgress = false := by
    cases hw : w.optimizer.inProgress with
    | false => rfl
    | true =>
        rw [optimize_of_inProgress provider hw] at hok
        cases hok
  obtain ⟨hsnapshot, hprimal⟩ := Option.filter_eq_some_iff.1 hs
  cases houtcome : outcome provider (begun w) with
  | error fault =>
      rw [optimize_of_outcome_error hidle houtcome] at hok
      cases hok
  | ok s' =>
      cases (optimize_of_outcome hidle houtcome).2.symm.trans hsnapshot
      rcases outcome_eq_ok houtcome with rfl | ⟨p, r, hp, -, hshape, hresult⟩
      · rw [Snapshot.failure_hasPrimal] at hprimal
        cases hprimal
      · obtain ⟨hvars, hcount⟩ := Session.positions_of_problem hp
        have hlength : r.primal.entries.length = p.evaluator.positions.size := by
          rw [r.primal.filled, hshape, Positions.size, hvars, hcount]
          simp [cellCount]
        have hkeys : s.vars = p.evaluator.positions.vars := by
          rw [Snapshot.ofResult_eq_ok hlength hresult]
          exact List.map_fst_zip hlength.ge
        exact ⟨hkeys.trans hvars, hkeys ▸ p.evaluator.positions.nodup⟩

/--
Whatever a solver did to the optimizer meanwhile: a feasible point is for the variables that the
model had before the solve. A variable of the model has no value if and only if it is not one of
them, so all have a value if and only if no variable is new, and a constraint has none for the lack
of a variable if and only if its function has a new one.
-/
theorem optimize_point_iff (hok : resultOf (optimize provider w) = .ok ()) :
    ∀ s, (after (optimize provider w)).optimizer.feasible? = some s →
      s.vars = w.optimizer.model.vars ∧
      ((∀ v ∈ (after (optimize provider w)).optimizer.model.vars, ∃ x,
          (after (optimize provider w)).optimizer.variablePrimal v = .ok (some x)) ↔
        ∀ v ∈ (after (optimize provider w)).optimizer.model.vars, v ∈ w.optimizer.model.vars) ∧
      (∀ v ∈ (after (optimize provider w)).optimizer.model.vars,
        (v ∈ w.optimizer.model.vars →
          ∃ x, (after (optimize provider w)).optimizer.variablePrimal v = .ok (some x)) ∧
        (v ∉ w.optimizer.model.vars →
          (after (optimize provider w)).optimizer.variablePrimal v = .error (.noValue v))) ∧
      (∀ id c, (after (optimize provider w)).optimizer.model.find? id = some c →
        ((∃ v, (after (optimize provider w)).optimizer.constraintPrimal id =
            .error (.unknownVariable v)) ↔
          ∃ v ∈ c.function.vars, v ∉ w.optimizer.model.vars)) := by
  intro s hs
  obtain ⟨hvars, hnodup⟩ := vars_of_optimize hok hs
  rw [← hvars]
  have hvalue : ∀ v ∈ (after (optimize provider w)).optimizer.model.vars, v ∈ s.vars →
      ∃ x, (after (optimize provider w)).optimizer.variablePrimal v = .ok (some x) := by
    intro v hv hmem
    obtain ⟨x, hx⟩ := Snapshot.value_of_mem hmem
    exact ⟨x, by rw [variablePrimal_eq hs hv, hx]; rfl⟩
  have hmissing : ∀ v ∈ (after (optimize provider w)).optimizer.model.vars, v ∉ s.vars →
      (after (optimize provider w)).optimizer.variablePrimal v = .error (.noValue v) := by
    intro v hv hnot
    rw [variablePrimal_eq hs hv, Snapshot.value_of_not_mem hnot]
    rfl
  refine ⟨rfl, ⟨fun hall v hv => ?_, fun hold v hv => hvalue v hv (hold v hv)⟩,
    fun v hv => ⟨hvalue v hv, hmissing v hv⟩,
    fun id c hc => constraintPrimal_unknown_iff hs hc hnodup⟩
  by_contra hnot
  obtain ⟨x, hx⟩ := hall v hv
  cases (hmissing v hv hnot).symm.trans hx

/-- A plugin whose solvers edit the model before they return the same value for all variables. -/
def meddling (es : List Edit) (status : String) (x : Float) : SolverProvider Unit where
  checkOptions _ _ := .ok ()
  create _ := .ok fun p => do
    change fun o => es.foldl (fun o e => (o.perform e).2) o
    return ⟨status, x, .ofList (List.replicate p.variableCount x)⟩

def oneVariable : World Unit :=
  ⟨((ofSettings .default).perform .addVariable).2, .initial, [], ()⟩

/-- A constraint on the variable is added meanwhile, and has the value of the variable. -/
theorem optimize_point_meddling :
    let provider :=
      meddling [.addConstraint (.function (.single ⟨1⟩)) (.lessThan ⟨5, rfl⟩)] "Optimal" 4
    resultOf (optimize provider oneVariable) = .ok () ∧
      ∃ s, (after (optimize provider oneVariable)).optimizer.feasible? = some s ∧
        s.vars = [⟨1⟩] ∧
        ∃ x, (after (optimize provider oneVariable)).optimizer.variablePrimal ⟨1⟩ =
          .ok (some x) := by
  intro provider
  have hok : resultOf (optimize provider oneVariable) = .ok () := rfl
  obtain ⟨hvars, -, hvalues, -⟩ := optimize_point_iff hok ⟨"Optimal", 4, [(⟨1⟩, 4)]⟩ rfl
  refine ⟨hok, _, rfl, hvars, (hvalues ⟨1⟩ ?_).1 ?_⟩
  · exact List.mem_singleton_self _
  · exact List.mem_singleton_self _

/-- A variable and a constraint on it are added meanwhile: neither has a value. -/
theorem not_optimize_point_meddling :
    let provider := meddling [.addVariable,
      .addConstraint (.function (.single ⟨2⟩)) (.lessThan ⟨5, rfl⟩)] "Optimal" 4
    let o := (after (optimize provider oneVariable)).optimizer
    resultOf (optimize provider oneVariable) = .ok () ∧ o.resultCount = 1 ∧
      o.feasible? = some ⟨"Optimal", 4, [(⟨1⟩, 4)]⟩ ∧ o.model.vars = [⟨1⟩, ⟨2⟩] ∧
      o.variablePrimal ⟨2⟩ = .error (.noValue ⟨2⟩) ∧
      ∃ id c, o.model.find? id = some c ∧
        o.constraintPrimal id = .error (.unknownVariable ⟨2⟩) := by
  intro provider o
  refine ⟨rfl, rfl, rfl, rfl, rfl, ⟨1, .single, .lessThan⟩, _, rfl, rfl⟩

end Optimizer

end Extremum
