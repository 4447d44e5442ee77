import Extremum.Model.Store
import Extremum.Proofs.Success

/-!
# Edits of models

Each operation that changes a model is an edit. An edit succeeds or fails, and there is a model
after it in both cases. The models that come about by any sequence of edits, failed ones among them,
are the reachable ones. For every operation that can fail, a lemma says when it succeeds and with
what result; all later proofs start from these.
-/

namespace Extremum

/-- An operation that changes a model. -/
inductive Edit where
  | empty
  | addVariable
  | addVariables (n : Nat)
  | deleteVariable (v : VariableId)
  | addConstraint (f : FunctionArgument) (r : Region)
  | deleteConstraint (id : ConstraintId)
  | setRegion (id : ConstraintId) (r : Region)
  | setObjective (f : FunctionArgument) (sense : Value)
  | setStart (v : VariableId) (value : Value)
  | setBlock (block : Option NonlinearBlock)

namespace Model

/-- The outcome of an operation that leaves the model as it is when it fails. -/
def settled (m : Model) : Except Fault Model → Except Fault Unit × Model
  | .ok m' => (.ok (), m')
  | .error fault => (.error fault, m)

/-- The outcome of an edit and the model after it. -/
def perform (m : Model) : Edit → Except Fault Unit × Model
  | .empty => (.ok (), m.cleared)
  | .addVariable => (.ok (), m.addVariable.2)
  | .addVariables n => (.ok (), (m.addVariables n).2)
  | .deleteVariable v => m.settled (m.deleteVariable v)
  | .addConstraint f r => m.settled ((m.addConstraint f r).map (·.2))
  | .deleteConstraint id => m.settled (m.deleteConstraint id)
  | .setRegion id r => m.settled (m.setRegion id r)
  | .setObjective f sense => m.setObjective f sense
  | .setStart v value => m.settled (m.setStart v value)
  | .setBlock block => (.ok (), m.setBlock block)

/-- The model after a sequence of edits, whether they succeed or fail. -/
def performAll (m : Model) : List Edit → Model
  | [] => m
  | e :: es => (m.perform e).2.performAll es

/-- The models that edits lead to from the empty one. -/
inductive Reachable : Model → Prop where
  | empty : Reachable .empty
  | perform {m : Model} (e : Edit) : Reachable m → Reachable (m.perform e).2

variable {m m' : Model}

/-- Emptying a model leaves no trace of it. -/
theorem cleared_eq_empty (m : Model) : m.cleared = .empty := rfl

theorem Reachable.performAll (h : m.Reachable) (es : List Edit) : (m.performAll es).Reachable := by
  induction es generalizing m with
  | nil => exact h
  | cons e es ih => exact ih (h.perform e)

theorem settled_cases (m : Model) (result : Except Fault Model) :
    (∃ fault, result = .error fault ∧ m.settled result = (.error fault, m)) ∨
      ∃ m', result = .ok m' ∧ m.settled result = (.ok (), m') := by
  cases result with
  | error fault => exact .inl ⟨fault, rfl, rfl⟩
  | ok m' => exact .inr ⟨m', rfl, rfl⟩

/-! ## When operations succeed -/

theorem checkVariable_eq_ok {v : VariableId} {u : Unit} :
    m.checkVariable v = .ok u ↔ v ∈ m.vars := by
  unfold checkVariable
  split <;> simp [*]

theorem checkVariables_eq_ok {vs : List VariableId} {u : Unit} :
    m.checkVariables vs = .ok u ↔ ∀ v ∈ vs, v ∈ m.vars := by
  induction vs with
  | nil => simp [checkVariables, pure_eq_ok]
  | cons v vs ih =>
      have hstep : m.checkVariables (v :: vs) =
          m.checkVariable v >>= fun _ => m.checkVariables vs := rfl
      rw [hstep, bind_eq_ok, List.forall_mem_cons, ← ih]
      simp only [checkVariable_eq_ok, exists_const]

theorem deleteVariable_eq_ok {v : VariableId} :
    m.deleteVariable v = .ok m' ↔ v ∈ m.vars ∧ { m with
      vars := m.vars.filter (· ≠ v)
      constraints := m.constraints.filterMap (constraintWithout v)
      objective := objectiveWithout v m.objective
      starts := m.starts.filter (·.1 ≠ v) } = m' := by
  simp only [deleteVariable, bind_eq_ok, pure_eq_ok, checkVariable_eq_ok, exists_const]

theorem constraint_eq_ok {id : ConstraintId} {c : Constraint} :
    m.constraint id = .ok c ↔ m.find? id = some c := by
  unfold constraint
  split <;> simp [*]

theorem addConstraint_eq_ok {argument : FunctionArgument} {r : Region} {id : ConstraintId} :
    m.addConstraint argument r = .ok (id, m') ↔ ∃ f, argument = .function f ∧
      Kind.isSupported f.kind r.kind = true ∧ (∀ v ∈ f.vars, v ∈ m.vars) ∧
      ⟨m.issuedConstraints + 1, f.kind, r.kind⟩ = id ∧ { m with
        constraints := m.constraints ++ [⟨⟨m.issuedConstraints + 1, f.kind, r.kind⟩, f, r⟩]
        issuedConstraints := m.issuedConstraints + 1 } = m' := by
  cases argument with
  | foreign s => simp [addConstraint]
  | function f =>
      by_cases hs : Kind.isSupported f.kind r.kind = true
      · simp only [addConstraint, hs, not_true, ↓reduceIte, bind_eq_ok, pure_eq_ok,
          checkVariables_eq_ok, exists_const, FunctionArgument.function.injEq, exists_eq_left',
          Prod.mk.injEq, true_and]
      · simp [addConstraint, hs, throw, throwThe, MonadExceptOf.throw, bind, Except.bind]

theorem deleteConstraint_eq_ok {id : ConstraintId} :
    m.deleteConstraint id = .ok m' ↔ (∃ c, m.find? id = some c) ∧
      { m with constraints := m.constraints.filter (·.id ≠ id) } = m' := by
  simp only [deleteConstraint, bind_eq_ok, pure_eq_ok, constraint_eq_ok, exists_and_right]

theorem setRegion_eq_ok {id : ConstraintId} {r : Region} :
    m.setRegion id r = .ok m' ↔ (∃ c, m.find? id = some c) ∧ r.kind = id.region ∧ { m with
      constraints := m.constraints.map fun c =>
        if c.id = id then { c with region := r } else c } = m' := by
  by_cases hk : r.kind = id.region
  · simp only [setRegion, hk, ne_eq, not_true, ↓reduceIte, bind_eq_ok, pure_eq_ok,
      constraint_eq_ok, exists_and_right, true_and]
  · simp [setRegion, hk, bind_eq_ok, throw, throwThe, MonadExceptOf.throw]

/-- The objective is replaced if its variables are known; the sense only if there is one, too. -/
theorem setObjective_cases (m : Model) (argument : FunctionArgument) (value : Value) :
    (∃ fault, m.setObjective argument value = (.error fault, m)) ∨
      ∃ f, argument = .function f ∧ (∀ v ∈ f.vars, v ∈ m.vars) ∧
        ((∃ fault, m.setObjective argument value = (.error fault, { m with objective := f })) ∨
          ∃ sense, m.setObjective argument value =
            (.ok (), { m with objective := f, sense := sense })) := by
  cases argument with
  | foreign r => exact .inl ⟨_, rfl⟩
  | function f =>
      unfold setObjective
      cases h : m.checkVariables f.vars with
      | error fault => exact .inl ⟨fault, by simp [h]⟩
      | ok u =>
          refine .inr ⟨f, rfl, checkVariables_eq_ok.1 h, ?_⟩
          cases hs : Sense.ofValue? value with
          | none => exact .inl ⟨.unknownSense value.literal, by simp [h]⟩
          | some sense => exact .inr ⟨sense, by simp [h]⟩

theorem setStart_eq_ok {v : VariableId} {value : Value} :
    m.setStart v value = .ok m' ↔ v ∈ m.vars ∧ ∃ start, value.asStart = .ok start ∧ { m with
      starts := match start with
        | none => m.starts.filter (·.1 ≠ v)
        | some x => (v, x) :: m.starts.filter (·.1 ≠ v) } = m' := by
  unfold setStart
  constructor
  · intro h
    obtain ⟨_, hv, h⟩ := bind_eq_ok.1 h
    obtain ⟨start, hstart, h⟩ := bind_eq_ok.1 h
    exact ⟨checkVariable_eq_ok.1 hv, start, hstart, pure_eq_ok.1 h⟩
  · rintro ⟨hv, start, hstart, rfl⟩
    exact bind_eq_ok.2 ⟨(), checkVariable_eq_ok.2 hv, bind_eq_ok.2 ⟨start, hstart, rfl⟩⟩

/-! ## When edits fail -/

theorem settled_of_error {result : Except Fault Model} {fault : Fault}
    (h : m.settled result = (.error fault, m')) : m' = m := by
  rcases settled_cases m result with ⟨_, -, hs⟩ | ⟨_, -, hs⟩ <;> cases hs.symm.trans h
  rfl

theorem perform_of_unknownSense {f : ScalarFunction} {value : Value}
    (hvars : ∀ v ∈ f.vars, v ∈ m.vars) (hsense : Sense.ofValue? value = none) :
    m.perform (.setObjective (.function f) value) =
      (.error (.unknownSense value.literal), { m with objective := f }) := by
  have hcheck : m.checkVariables f.vars = .ok () := checkVariables_eq_ok.2 hvars
  simp only [perform, setObjective, hcheck, hsense]

theorem sense_eq_none_of_error {f : ScalarFunction} {value : Value} {fault : Fault}
    (hvars : ∀ v ∈ f.vars, v ∈ m.vars)
    (h : m.setObjective (.function f) value = (.error fault, m')) :
    Sense.ofValue? value = none := by
  have hcheck : m.checkVariables f.vars = .ok () := checkVariables_eq_ok.2 hvars
  cases hsense : Sense.ofValue? value with
  | none => rfl
  | some sense => simp [setObjective, hcheck, hsense] at h

/-- The only failed edits that change a model. -/
theorem failed_perform_ne_iff {e : Edit} :
    (∃ fault, m.perform e = (.error fault, m')) ∧ m' ≠ m ↔
      ∃ f value, e = .setObjective (.function f) value ∧ (∀ v ∈ f.vars, v ∈ m.vars) ∧
        Sense.ofValue? value = none ∧ f ≠ m.objective ∧ m' = { m with objective := f } := by
  constructor
  · rintro ⟨⟨fault, h⟩, hne⟩
    cases e with
    | empty | addVariable | addVariables _ | setBlock _ => cases h
    | deleteVariable _ | addConstraint _ _ | deleteConstraint _ | setRegion _ _ | setStart _ _ =>
        exact absurd (settled_of_error h) hne
    | setObjective argument value =>
        have hset : m.setObjective argument value = (.error fault, m') := h
        rcases setObjective_cases m argument value with
          ⟨_, hs⟩ | ⟨f, rfl, hvars, ⟨_, hs⟩ | ⟨_, hs⟩⟩ <;> cases hs.symm.trans hset
        · exact absurd rfl hne
        · -- the function is in place before the sense is read
          refine ⟨f, value, rfl, hvars, sense_eq_none_of_error hvars hset, ?_, rfl⟩
          rintro rfl
          exact hne rfl
  · rintro ⟨f, value, rfl, hvars, hsense, hne, rfl⟩
    refine ⟨⟨_, perform_of_unknownSense hvars hsense⟩, fun hsame => hne ?_⟩
    exact congrArg objective hsame

/-- An edit that fails changes at most the objective. -/
theorem perform_of_error {e : Edit} {fault : Fault} (h : (m.perform e).1 = .error fault) :
    (m.perform e).2 = { m with objective := (m.perform e).2.objective } := by
  have hperform : m.perform e = (.error fault, (m.perform e).2) := Prod.ext h rfl
  generalize (m.perform e).2 = m' at hperform ⊢
  by_cases hsame : m' = m
  · rw [hsame]
  · obtain ⟨f, value, -, -, -, -, hm⟩ := failed_perform_ne_iff.1 ⟨⟨fault, hperform⟩, hsame⟩
    rw [hm]

end Model

end Extremum
