import Extremum.Proofs.Model.Edit

/-!
# Well-formed models

A model is well-formed if all its references are to variables that it has, no variable stands in it
twice, none was issued beyond the counter, and every constraint is filed under the kinds of its
function and its region. Every edit keeps models well-formed, so all reachable models are.
-/

namespace Extremum

/-- A constraint is filed under its own kinds, and these go together. -/
structure Constraint.WellKinded (c : Constraint) : Prop where
  function : c.id.function = c.function.kind
  region : c.id.region = c.region.kind
  supported : Kind.isSupported c.function.kind c.region.kind = true

namespace Model

/-- All references of a model are to its variables, and its constraints are filed correctly. -/
structure WellFormed (m : Model) : Prop where
  nodup : m.vars.Nodup
  issued : ∀ v ∈ m.vars, v.value ≤ m.issuedVariables
  constraint_vars : ∀ c ∈ m.constraints, ∀ v ∈ c.function.vars, v ∈ m.vars
  objective_vars : ∀ v ∈ m.objective.vars, v ∈ m.vars
  start_vars : ∀ s ∈ m.starts, s.1 ∈ m.vars
  wellKinded : ∀ c ∈ m.constraints, c.WellKinded

end Model

/-! ## Functions and constraints without a variable -/

namespace ScalarFunction

variable {α : Type} {v w : VariableId}

theorem kind_without (f : ScalarFunction α) : (f.without v).kind = f.kind := by
  cases f <;> rfl

theorem mem_vars_without {f : ScalarFunction α} (hf : f.kind ≠ .single)
    (hw : w ∈ (f.without v).vars) : w ∈ f.vars ∧ w ≠ v := by
  cases f with
  | single u => exact absurd rfl hf
  | affine terms c =>
      simp only [without, vars, termsWithout, List.mem_map, List.mem_filter,
        decide_eq_true_eq] at hw ⊢
      obtain ⟨t, ⟨ht, hne⟩, rfl⟩ := hw
      exact ⟨⟨t, ht, rfl⟩, hne⟩
  | quadratic terms products c =>
      simp only [without, vars, termsWithout, productsWithout, List.mem_append, List.mem_map,
        List.mem_flatMap, List.mem_filter, decide_eq_true_eq] at hw ⊢
      rcases hw with ⟨t, ⟨ht, hne⟩, rfl⟩ | ⟨t, ⟨ht, hne⟩, hw⟩
      · exact ⟨.inl ⟨t, ht, rfl⟩, hne⟩
      · refine ⟨.inr ⟨t, ht, hw⟩, ?_⟩
        rcases List.mem_pair.1 hw with rfl | rfl
        · exact hne.1
        · exact hne.2

end ScalarFunction

namespace Model

variable {m m' : Model} {v w : VariableId} {c c' : Constraint}

theorem constraintWithout_eq_some (h : constraintWithout v c = some c') :
    c'.id = c.id ∧ c'.region = c.region ∧ c'.function.kind = c.function.kind ∧
      ∀ w ∈ c'.function.vars, w ∈ c.function.vars ∧ w ≠ v := by
  unfold constraintWithout at h
  split at h
  · rename_i u hu
    split at h
    · cases h
    · rename_i hne
      cases h
      refine ⟨rfl, rfl, rfl, ?_⟩
      intro w hw
      rw [hu, ScalarFunction.vars, List.mem_singleton] at hw
      exact ⟨by rw [hu, hw, ScalarFunction.vars]; exact List.mem_singleton_self u, hw ▸ hne⟩
  · rename_i hf
    cases h
    have hk : c.function.kind ≠ .single := by
      intro hk
      cases hc : c.function with
      | single u => exact hf u hc
      | affine _ _ | quadratic _ _ _ => rw [hc] at hk; cases hk
    exact ⟨rfl, rfl, ScalarFunction.kind_without _,
      fun w hw => ScalarFunction.mem_vars_without hk hw⟩

theorem mem_vars_objectiveWithout {f : ScalarFunction} (hw : w ∈ (objectiveWithout v f).vars) :
    w ∈ f.vars ∧ w ≠ v := by
  unfold objectiveWithout at hw
  split at hw
  · split at hw
    · simp [ScalarFunction.zero, ScalarFunction.vars] at hw
    · rename_i hne
      rw [ScalarFunction.vars, List.mem_singleton] at hw
      exact ⟨by rw [hw, ScalarFunction.vars]; exact List.mem_singleton_self _, hw ▸ hne⟩
  · rename_i hf
    refine ScalarFunction.mem_vars_without ?_ hw
    intro hk
    cases f with
    | single u => exact hf u rfl
    | affine _ _ | quadratic _ _ _ => cases hk

/-! ## Every edit keeps models well-formed -/

theorem WellFormed.empty : WellFormed .empty where
  nodup := .nil
  issued := by simp [Model.empty]
  constraint_vars := by simp [Model.empty]
  objective_vars := by simp [Model.empty, ScalarFunction.zero, ScalarFunction.vars]
  start_vars := by simp [Model.empty]
  wellKinded := by simp [Model.empty]

theorem WellFormed.addVariable (h : m.WellFormed) : m.addVariable.2.WellFormed := by
  have hmem : ∀ w ∈ m.vars, w ∈ m.addVariable.2.vars := fun w hw => List.mem_append_left _ hw
  refine ⟨?_, ?_, ?_, ?_, ?_, h.wellKinded⟩
  · refine List.nodup_append.2 ⟨h.nodup, by simp, ?_⟩
    -- deleted identifiers are not issued again, so the new one is beyond all others
    rintro w hw u hu rfl
    have := h.issued w hw
    simp only [List.mem_singleton.1 hu] at this
    omega
  · intro w hw
    simp only [Model.addVariable, List.mem_append, List.mem_singleton] at hw ⊢
    rcases hw with hw | rfl
    · have := h.issued w hw
      omega
    · simp
  · exact fun c hc w hw => hmem w (h.constraint_vars c hc w hw)
  · exact fun w hw => hmem w (h.objective_vars w hw)
  · exact fun s hs => hmem _ (h.start_vars s hs)

theorem WellFormed.addVariables (h : m.WellFormed) (n : Nat) : (m.addVariables n).2.WellFormed := by
  induction n generalizing m with
  | zero => exact h
  | succ n ih => exact ih h.addVariable

theorem WellFormed.deleteVariable (h : m.WellFormed) (hd : m.deleteVariable v = .ok m') :
    m'.WellFormed := by
  obtain ⟨-, rfl⟩ := deleteVariable_eq_ok.1 hd
  have hkeep : ∀ w, w ∈ m.vars ∧ w ≠ v → w ∈ m.vars.filter (· ≠ v) := by simp
  refine ⟨h.nodup.filter _, ?_, ?_, ?_, ?_, ?_⟩
  · exact fun w hw => h.issued w (List.mem_of_mem_filter hw)
  · intro c' hc' w hw
    obtain ⟨c, hc, hcc⟩ := List.mem_filterMap.1 hc'
    obtain ⟨-, -, -, hvars⟩ := constraintWithout_eq_some hcc
    exact hkeep w ⟨h.constraint_vars c hc w (hvars w hw).1, (hvars w hw).2⟩
  · intro w hw
    obtain ⟨hf, hne⟩ := mem_vars_objectiveWithout hw
    exact hkeep w ⟨h.objective_vars w hf, hne⟩
  · intro s hs
    obtain ⟨hs, hne⟩ := List.mem_filter.1 hs
    exact hkeep s.1 ⟨h.start_vars s hs, by simpa using hne⟩
  · intro c' hc'
    obtain ⟨c, hc, hcc⟩ := List.mem_filterMap.1 hc'
    obtain ⟨hid, hregion, hkind, -⟩ := constraintWithout_eq_some hcc
    obtain ⟨hf, hr, hs⟩ := h.wellKinded c hc
    exact ⟨by rw [hid, hkind, hf], by rw [hid, hregion, hr], by rw [hkind, hregion, hs]⟩

theorem WellFormed.addConstraint {argument : FunctionArgument} {r : Region} {id : ConstraintId}
    (h : m.WellFormed) (ha : m.addConstraint argument r = .ok (id, m')) : m'.WellFormed := by
  obtain ⟨f, -, hs, hv, -, rfl⟩ := addConstraint_eq_ok.1 ha
  refine { h with constraint_vars := ?_, wellKinded := ?_ }
  · intro c hc
    rcases List.mem_append.1 hc with hc | hc
    · exact h.constraint_vars c hc
    · rw [List.mem_singleton.1 hc]
      exact hv
  · intro c hc
    rcases List.mem_append.1 hc with hc | hc
    · exact h.wellKinded c hc
    · rw [List.mem_singleton.1 hc]
      exact ⟨rfl, rfl, hs⟩

theorem WellFormed.deleteConstraint {id : ConstraintId} (h : m.WellFormed)
    (hd : m.deleteConstraint id = .ok m') : m'.WellFormed := by
  obtain ⟨-, rfl⟩ := deleteConstraint_eq_ok.1 hd
  exact { h with
    constraint_vars := fun c hc => h.constraint_vars c (List.mem_of_mem_filter hc)
    wellKinded := fun c hc => h.wellKinded c (List.mem_of_mem_filter hc) }

theorem WellFormed.setRegion {id : ConstraintId} {r : Region} (h : m.WellFormed)
    (hs : m.setRegion id r = .ok m') : m'.WellFormed := by
  obtain ⟨-, hr, rfl⟩ := setRegion_eq_ok.1 hs
  refine { h with constraint_vars := ?_, wellKinded := ?_ }
  · intro c' hc'
    obtain ⟨c, hc, rfl⟩ := List.mem_map.1 hc'
    split
    · exact h.constraint_vars c hc
    · exact h.constraint_vars c hc
  · intro c' hc'
    obtain ⟨c, hc, rfl⟩ := List.mem_map.1 hc'
    obtain ⟨hf, hk, hsup⟩ := h.wellKinded c hc
    split
    · -- the new region has the kind that the constraint is filed under
      rename_i hid
      have hrc : r.kind = c.region.kind := by rw [← hk, hid, hr]
      exact ⟨hf, by rw [hk, hrc], by rw [hrc]; exact hsup⟩
    · exact ⟨hf, hk, hsup⟩

theorem WellFormed.setObjective (h : m.WellFormed) (argument : FunctionArgument) (value : Value) :
    (m.setObjective argument value).2.WellFormed := by
  rcases setObjective_cases m argument value with ⟨_, hs⟩ | ⟨f, -, hv, ⟨_, hs⟩ | ⟨_, hs⟩⟩
  · rw [hs]
    exact h
  · rw [hs]
    exact { h with objective_vars := hv }
  · rw [hs]
    exact { h with objective_vars := hv }

theorem WellFormed.setStart {value : Value} (h : m.WellFormed)
    (hs : m.setStart v value = .ok m') : m'.WellFormed := by
  obtain ⟨hv, start, -, rfl⟩ := setStart_eq_ok.1 hs
  have hothers : ∀ s ∈ m.starts.filter (·.1 ≠ v), s.1 ∈ m.vars :=
    fun s hs => h.start_vars s (List.mem_of_mem_filter hs)
  refine { h with start_vars := ?_ }
  cases start with
  | none => exact hothers
  | some x => exact List.forall_mem_cons.2 ⟨hv, hothers⟩

theorem WellFormed.settled (h : m.WellFormed) {result : Except Fault Model}
    (hr : ∀ m', result = .ok m' → m'.WellFormed) : (m.settled result).2.WellFormed := by
  rcases settled_cases m result with ⟨_, -, hs⟩ | ⟨m', hm', hs⟩
  · rw [hs]
    exact h
  · rw [hs]
    exact hr m' hm'

theorem WellFormed.perform (h : m.WellFormed) (e : Edit) : (m.perform e).2.WellFormed := by
  cases e with
  | empty =>
      rw [Model.perform, cleared_eq_empty]
      exact .empty
  | addVariable => exact h.addVariable
  | addVariables n => exact h.addVariables n
  | deleteVariable v => exact h.settled fun _ => h.deleteVariable
  | addConstraint f r =>
      refine h.settled fun m' hm' => ?_
      obtain ⟨⟨id, m''⟩, ha, rfl⟩ := map_eq_ok.1 hm'
      exact h.addConstraint ha
  | deleteConstraint id => exact h.settled fun _ => h.deleteConstraint
  | setRegion id r => exact h.settled fun _ => h.setRegion
  | setObjective f value => exact h.setObjective f value
  | setStart v value => exact h.settled fun _ => h.setStart
  | setBlock block => exact { h with }

/-- All edits, one after another. -/
theorem Reachable.wellFormed (h : m.Reachable) : m.WellFormed := by
  induction h with
  | empty => exact .empty
  | perform e _ ih => exact ih.perform e

end Model

end Extremum
