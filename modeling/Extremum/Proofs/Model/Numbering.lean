import Extremum.Proofs.Model.WellFormed

/-!
# Identifiers are never reused

Until a model is emptied, the identifiers that it issues increase, those of variables and those of
constraints of all kinds alike. What a model holds are some of the identifiers issued so far, in
order. One that is gone does not come back.
-/

namespace Extremum

/-- Numbers that increase, beyond a lower one and up to an upper one. -/
structure Ascending (low high : Nat) (ns : List Int) : Prop where
  le : low ≤ high
  increasing : ns.Pairwise (· < ·)
  beyond : ∀ n ∈ ns, (low : Int) < n
  upTo : ∀ n ∈ ns, n ≤ high

namespace Ascending

variable {low mid high : Nat} {ns ns' : List Int}

theorem nil (low : Nat) : Ascending low low [] := ⟨le_refl low, .nil, by simp, by simp⟩

theorem single (low : Nat) : Ascending low (low + 1) [(low : Int) + 1] :=
  ⟨by omega, by simp, by simp, by simp⟩

theorem append (h : Ascending low mid ns) (h' : Ascending mid high ns') :
    Ascending low high (ns ++ ns') := by
  have hle := h.le
  have hle' := h'.le
  refine ⟨by omega, List.pairwise_append.2 ⟨h.increasing, h'.increasing, ?_⟩, ?_, ?_⟩
  · intro n hn n' hn'
    have := h.upTo n hn
    have := h'.beyond n' hn'
    omega
  · refine List.forall_mem_append.2 ⟨h.beyond, fun n hn => ?_⟩
    have := h'.beyond n hn
    omega
  · refine List.forall_mem_append.2 ⟨fun n hn => ?_, h'.upTo⟩
    have := h.upTo n hn
    omega

theorem sublist (h : Ascending low high ns) (hs : ns'.Sublist ns) : Ascending low high ns' :=
  ⟨h.le, h.increasing.sublist hs, fun n hn => h.beyond n (hs.subset hn),
    fun n hn => h.upTo n (hs.subset hn)⟩

end Ascending

namespace Model

/-! ## What edits issue -/

def constraintIds (m : Model) : List ConstraintId := m.constraints.map (·.id)

/-- The variables that an edit adds, as they are returned. -/
def variablesIssuedBy (m : Model) : Edit → List VariableId
  | .addVariable => [m.addVariable.1]
  | .addVariables n => (m.addVariables n).1
  | _ => []

/-- The identifier that is returned for a constraint, if an edit adds one. -/
def constraintsIssuedBy (m : Model) : Edit → List ConstraintId
  | .addConstraint f r =>
    match m.addConstraint f r with
    | .ok (id, _) => [id]
    | .error _ => []
  | _ => []

/-- The variables that are returned in a run of edits, in order. -/
def variablesIssued (m : Model) : List Edit → List VariableId
  | [] => []
  | e :: es => m.variablesIssuedBy e ++ (m.perform e).2.variablesIssued es

/-- The identifiers of constraints that are returned in a run of edits, in order. -/
def constraintsIssued (m : Model) : List Edit → List ConstraintId
  | [] => []
  | e :: es => m.constraintsIssuedBy e ++ (m.perform e).2.constraintsIssued es

/--
One model becomes another one by issuing these identifiers, and by losing some of those that it has
then.
-/
structure Issues (m : Model) (vs : List VariableId) (ids : List ConstraintId) (m' : Model) :
    Prop where
  vars : m'.vars.Sublist (m.vars ++ vs)
  constraints : m'.constraintIds.Sublist (m.constraintIds ++ ids)
  variablesAscend : Ascending m.issuedVariables m'.issuedVariables (vs.map (·.value))
  constraintsAscend : Ascending m.issuedConstraints m'.issuedConstraints (ids.map (·.value))

variable {m m' m'' : Model} {vs vs' : List VariableId} {ids ids' : List ConstraintId}
  {v : VariableId} {id : ConstraintId}

/-- Nothing is issued, and no counter moves. -/
theorem Issues.of_sublist (hvars : m'.vars.Sublist m.vars)
    (hids : m'.constraintIds.Sublist m.constraintIds) (hv : m'.issuedVariables = m.issuedVariables)
    (hc : m'.issuedConstraints = m.issuedConstraints) : m.Issues [] [] m' where
  vars := by rwa [List.append_nil]
  constraints := by rwa [List.append_nil]
  variablesAscend := by
    rw [hv]
    exact .nil _
  constraintsAscend := by
    rw [hc]
    exact .nil _

theorem Issues.refl (m : Model) : m.Issues [] [] m := .of_sublist (.refl _) (.refl _) rfl rfl

theorem Issues.trans (h : m.Issues vs ids m') (h' : m'.Issues vs' ids' m'') :
    m.Issues (vs ++ vs') (ids ++ ids') m'' where
  vars := by
    rw [← List.append_assoc]
    exact h'.vars.trans (h.vars.append_right vs')
  constraints := by
    rw [← List.append_assoc]
    exact h'.constraints.trans (h.constraints.append_right ids')
  variablesAscend := by
    rw [List.map_append]
    exact h.variablesAscend.append h'.variablesAscend
  constraintsAscend := by
    rw [List.map_append]
    exact h.constraintsAscend.append h'.constraintsAscend

/-! ## One edit -/

theorem issues_addVariable (m : Model) : m.Issues [m.addVariable.1] [] m.addVariable.2 where
  vars := .refl _
  constraints := by
    rw [List.append_nil]
    exact .refl _
  variablesAscend := .single m.issuedVariables
  constraintsAscend := .nil _

theorem issues_addVariables (m : Model) (n : Nat) :
    m.Issues (m.addVariables n).1 [] (m.addVariables n).2 := by
  induction n generalizing m with
  | zero => exact .refl m
  | succ n ih => exact m.issues_addVariable.trans (ih m.addVariable.2)

/-- A constraint that stays when a variable goes keeps its identifier. -/
theorem ids_constraintsWithout (v : VariableId) (cs : List Constraint) :
    ((cs.filterMap (constraintWithout v)).map (·.id)).Sublist (cs.map (·.id)) := by
  induction cs with
  | nil => exact .slnil
  | cons c cs ih =>
      cases hc : constraintWithout v c with
      | none =>
          rw [List.filterMap_cons_none hc]
          exact ih.cons c.id
      | some c' =>
          rw [List.filterMap_cons_some hc, List.map_cons, (constraintWithout_eq_some hc).1]
          exact ih.cons_cons c.id

theorem issues_deleteVariable (h : m.deleteVariable v = .ok m') : m.Issues [] [] m' := by
  obtain ⟨-, rfl⟩ := deleteVariable_eq_ok.1 h
  exact .of_sublist List.filter_sublist (ids_constraintsWithout v m.constraints) rfl rfl

theorem issues_addConstraint {f : FunctionArgument} {r : Region}
    (h : m.addConstraint f r = .ok (id, m')) : m.Issues [] [id] m' := by
  obtain ⟨f, -, -, -, rfl, rfl⟩ := addConstraint_eq_ok.1 h
  refine ⟨by simp, ?_, .nil _, .single m.issuedConstraints⟩
  rw [constraintIds, List.map_append]
  exact .refl _

theorem issues_deleteConstraint (h : m.deleteConstraint id = .ok m') : m.Issues [] [] m' := by
  obtain ⟨-, rfl⟩ := deleteConstraint_eq_ok.1 h
  exact .of_sublist (.refl _) (List.filter_sublist.map _) rfl rfl

theorem issues_setRegion {r : Region} (h : m.setRegion id r = .ok m') : m.Issues [] [] m' := by
  obtain ⟨-, -, rfl⟩ := setRegion_eq_ok.1 h
  refine .of_sublist (.refl _) ?_ rfl rfl
  rw [constraintIds, List.map_map]
  refine (List.map_congr_left fun c _ => ?_).symm ▸ .refl _
  by_cases hc : c.id = id <;> simp [hc]

theorem issues_setObjective (m : Model) (f : FunctionArgument) (value : Value) :
    m.Issues [] [] (m.setObjective f value).2 := by
  rcases setObjective_cases m f value with ⟨_, hs⟩ | ⟨_, -, -, ⟨_, hs⟩ | ⟨_, hs⟩⟩ <;>
    exact hs ▸ .of_sublist (.refl _) (.refl _) rfl rfl

theorem issues_setStart {value : Value} (h : m.setStart v value = .ok m') :
    m.Issues [] [] m' := by
  obtain ⟨-, _, -, rfl⟩ := setStart_eq_ok.1 h
  exact .of_sublist (.refl _) (.refl _) rfl rfl

theorem Issues.settled {result : Except Fault Model}
    (h : ∀ m', result = .ok m' → m.Issues [] [] m') : m.Issues [] [] (m.settled result).2 := by
  rcases settled_cases m result with ⟨_, -, hs⟩ | ⟨m', hm', hs⟩
  · rw [hs]
    exact .refl m
  · rw [hs]
    exact h m' hm'

/-- An edit issues what it returns, also one that fails; emptying a model is the exception. -/
theorem issues_perform (m : Model) {e : Edit} (he : e ≠ .empty) :
    m.Issues (m.variablesIssuedBy e) (m.constraintsIssuedBy e) (m.perform e).2 := by
  cases e with
  | empty => exact absurd rfl he
  | addVariable => exact m.issues_addVariable
  | addVariables n => exact m.issues_addVariables n
  | deleteVariable v => exact .settled fun _ => issues_deleteVariable
  | addConstraint f r =>
      cases h : m.addConstraint f r with
      | error fault =>
          simp only [constraintsIssuedBy, h]
          exact .settled fun m' hm' => by simp [h, Except.map] at hm'
      | ok result =>
          obtain ⟨id, m'⟩ := result
          simp only [constraintsIssuedBy, perform, h]
          exact issues_addConstraint h
  | deleteConstraint id => exact .settled fun _ => issues_deleteConstraint
  | setRegion id r => exact .settled fun _ => issues_setRegion
  | setObjective f value => exact m.issues_setObjective f value
  | setStart v value => exact .settled fun _ => issues_setStart
  | setBlock block => exact .of_sublist (.refl _) (.refl _) rfl rfl

/-! ## Runs of edits -/

theorem issues_performAll (m : Model) {es : List Edit} (hes : .empty ∉ es) :
    m.Issues (m.variablesIssued es) (m.constraintsIssued es) (m.performAll es) := by
  induction es generalizing m with
  | nil => exact .refl m
  | cons e es ih =>
      obtain ⟨he, hes⟩ := List.forall_mem_cons.1 (List.forall_mem_ne'.2 hes)
      exact (m.issues_perform he).trans (ih _ (List.forall_mem_ne'.1 hes))

theorem performAll_append (m : Model) (es es' : List Edit) :
    m.performAll (es ++ es') = (m.performAll es).performAll es' := by
  induction es generalizing m with
  | nil => rfl
  | cons e es ih => exact ih _

/-- All identifiers of a model were issued by it, in order. -/
structure Ordered (m : Model) : Prop where
  vars : Ascending 0 m.issuedVariables (m.vars.map (·.value))
  constraints : Ascending 0 m.issuedConstraints (m.constraintIds.map (·.value))

theorem Ordered.vars_issued (h : m.Ordered) (hi : m.Issues vs ids m') :
    Ascending 0 m'.issuedVariables ((m.vars ++ vs).map (·.value)) := by
  rw [List.map_append]
  exact h.vars.append hi.variablesAscend

theorem Ordered.constraints_issued (h : m.Ordered) (hi : m.Issues vs ids m') :
    Ascending 0 m'.issuedConstraints ((m.constraintIds ++ ids).map (·.value)) := by
  rw [List.map_append]
  exact h.constraints.append hi.constraintsAscend

theorem Ordered.after (h : m.Ordered) (hi : m.Issues vs ids m') : m'.Ordered where
  vars := (h.vars_issued hi).sublist (hi.vars.map _)
  constraints := (h.constraints_issued hi).sublist (hi.constraints.map _)

theorem Reachable.ordered (h : m.Reachable) : m.Ordered := by
  induction h with
  | empty => exact ⟨.nil 0, .nil 0⟩
  | perform e _ ih =>
      by_cases he : e = .empty
      · subst he
        exact ⟨.nil 0, .nil 0⟩
      · exact ih.after (issues_perform _ he)

/-- A variable that was issued and is gone is not issued again. -/
theorem Issues.not_mem_vars (h : m.Issues vs ids m') (hissued : v.value ≤ m.issuedVariables)
    (hv : v ∉ m.vars) : v ∉ m'.vars := by
  intro hmem
  rcases List.mem_append.1 (h.vars.subset hmem) with hmem | hmem
  · exact hv hmem
  · have := h.variablesAscend.beyond _ (List.mem_map_of_mem hmem)
    omega

theorem Issues.not_mem_constraintIds (h : m.Issues vs ids m')
    (hissued : id.value ≤ m.issuedConstraints) (hid : id ∉ m.constraintIds) :
    id ∉ m'.constraintIds := by
  intro hmem
  rcases List.mem_append.1 (h.constraints.subset hmem) with hmem | hmem
  · exact hid hmem
  · have := h.constraintsAscend.beyond _ (List.mem_map_of_mem hmem)
    omega

theorem find?_eq_none : m.find? id = none ↔ id ∉ m.constraintIds := by
  simp [find?, constraintIds, List.find?_eq_none]

theorem pairwise_of_ascending {α : Type} {value : α → Int} {as : List α} {low high : Nat}
    (h : Ascending low high (as.map value)) : as.Pairwise (value · < value ·) :=
  List.pairwise_map.1 h.increasing

/--
In a run of edits, failed ones among them, every identifier that is returned is greater than all of
its kind before it, and those of variables and of each kind of constraint are listed in increasing
order. An identifier that was issued and is not valid any more never is again, until the model is
emptied.
-/
theorem Reachable.identifiers_increase (h : m.Reachable) {es : List Edit} (hes : .empty ∉ es) :
    (m.vars ++ m.variablesIssued es).Pairwise (·.value < ·.value) ∧
    (m.constraintIds ++ m.constraintsIssued es).Pairwise (·.value < ·.value) ∧
    (m.performAll es).vars.Pairwise (·.value < ·.value) ∧
    (∀ function region, (((m.performAll es).group function region).map (·.id)).Pairwise
      (·.value < ·.value)) ∧
    ∀ before after, es = before ++ after →
      (∀ v ∈ m.vars ++ m.variablesIssued before, v ∉ (m.performAll before).vars →
        v ∉ (m.performAll es).vars) ∧
      ∀ id ∈ m.constraintIds ++ m.constraintsIssued before,
        (m.performAll before).find? id = none → (m.performAll es).find? id = none := by
  have hissues := m.issues_performAll hes
  have hordered := h.ordered.after hissues
  refine ⟨pairwise_of_ascending (h.ordered.vars_issued hissues),
    pairwise_of_ascending (h.ordered.constraints_issued hissues),
    pairwise_of_ascending hordered.vars, fun function region => ?_, ?_⟩
  · exact (pairwise_of_ascending hordered.constraints).sublist (List.filter_sublist.map _)
  · rintro before after rfl
    have hbefore := m.issues_performAll fun hmem => hes (List.mem_append_left after hmem)
    have hafter := (m.performAll before).issues_performAll
      fun hmem => hes (List.mem_append_right before hmem)
    rw [performAll_append]
    constructor
    · intro v hv
      exact hafter.not_mem_vars ((h.ordered.vars_issued hbefore).upTo _ (List.mem_map_of_mem hv))
    · intro id hid
      rw [find?_eq_none, find?_eq_none]
      exact hafter.not_mem_constraintIds
        ((h.ordered.constraints_issued hbefore).upTo _ (List.mem_map_of_mem hid))

/-- A variable is deleted with its constraint, and neither of the two numbers is issued again. -/
theorem identifiers_increase_after_deletion :
    let before : List Edit := [.addVariables 2,
      .addConstraint (.function (.single ⟨2⟩)) (.lessThan ⟨3, rfl⟩), .deleteVariable ⟨2⟩]
    let after : List Edit := [.addVariable,
      .addConstraint (.function (.single ⟨2⟩)) (.lessThan ⟨3, rfl⟩),
      .addConstraint (.function (.affine [⟨1, ⟨3⟩⟩] 0)) (.lessThan ⟨3, rfl⟩)]
    empty.variablesIssued (before ++ after) = [⟨1⟩, ⟨2⟩, ⟨3⟩] ∧
      empty.constraintsIssued (before ++ after) =
        [⟨1, .single, .lessThan⟩, ⟨2, .affine, .lessThan⟩] ∧
      (empty.performAll (before ++ after)).vars.Pairwise (·.value < ·.value) ∧
      ⟨2⟩ ∉ (empty.performAll (before ++ after)).vars ∧
      (empty.performAll (before ++ after)).find? ⟨1, .single, .lessThan⟩ = none := by
  intro before after
  have hes : .empty ∉ before ++ after := by simp [before, after]
  obtain ⟨-, -, hvars, -, hgone⟩ := Reachable.empty.identifiers_increase hes
  obtain ⟨hv, hid⟩ := hgone before after rfl
  exact ⟨rfl, rfl, hvars, hv ⟨2⟩ (by decide) (by decide), hid _ (by decide) rfl⟩

end Model

end Extremum
