import Extremum.Problem.Assembly
import Extremum.Proofs.Problem.Bounds
import Extremum.Proofs.Problem.Positions

/-!
# Rows of well-formed models

In a well-formed model every variable that a constraint or the objective mentions has a position,
and every algebraic constraint lies in a region with bounds. So no look-up fails when rows are made,
and there is one row for each algebraic constraint.
-/

namespace Extremum

/-! ## Expressions of functions -/

namespace Expr

variable {α : Type} {place : VariableId → Except Fault Nat}

theorem exists_ofAffineTerms {terms : List (AffineTerm α)}
    (h : ∀ v ∈ terms.map (·.var), ∃ p, place v = .ok p) :
    ∃ es, terms.mapM (ofAffineTerm place) = .ok es := by
  refine exists_mapM_eq_ok fun t ht => ?_
  obtain ⟨p, hp⟩ := h t.var (List.mem_map_of_mem ht)
  exact ⟨_, bind_eq_ok.2 ⟨p, hp, rfl⟩⟩

theorem exists_ofQuadraticTerms [Mul α] [OfScientific α]
    {products : List (QuadraticTerm α)}
    (h : ∀ v ∈ products.flatMap (fun t => [t.first, t.second]), ∃ p, place v = .ok p) :
    ∃ es, products.mapM (ofQuadraticTerm place) = .ok es := by
  refine exists_mapM_eq_ok fun t ht => ?_
  obtain ⟨p, hp⟩ := h t.first (List.mem_flatMap.2 ⟨t, ht, by simp⟩)
  obtain ⟨q, hq⟩ := h t.second (List.mem_flatMap.2 ⟨t, ht, by simp⟩)
  exact ⟨_, bind_eq_ok.2 ⟨p, hp, bind_eq_ok.2 ⟨q, hq, rfl⟩⟩⟩

theorem exists_ofFunction [Mul α] [OfScientific α] {f : ScalarFunction α}
    (h : ∀ v ∈ f.vars, ∃ p, place v = .ok p) : ∃ e, ofFunction place f = .ok e := by
  cases f with
  | single v =>
      obtain ⟨p, hp⟩ := h v (List.mem_singleton_self v)
      exact ⟨_, bind_eq_ok.2 ⟨p, hp, rfl⟩⟩
  | affine terms c =>
      obtain ⟨es, hes⟩ := exists_ofAffineTerms h
      exact ⟨_, bind_eq_ok.2 ⟨es, hes, rfl⟩⟩
  | quadratic terms products c =>
      obtain ⟨qs, hqs⟩ := exists_ofQuadraticTerms fun v hv => h v (List.mem_append_right _ hv)
      obtain ⟨es, hes⟩ := exists_ofAffineTerms fun v hv => h v (List.mem_append_left _ hv)
      exact ⟨_, bind_eq_ok.2 ⟨qs, hqs, bind_eq_ok.2 ⟨es, hes, rfl⟩⟩⟩

/-- If a function has no expression, then one of its variables has no place. -/
theorem exists_of_ofFunction_error [Mul α] [OfScientific α] {f : ScalarFunction α} {fault : Fault}
    (h : ofFunction place f = .error fault) : ∃ v ∈ f.vars, place v = .error fault := by
  have hterms : ∀ {terms : List (AffineTerm α)}, terms.mapM (ofAffineTerm place) = .error fault →
      ∃ v ∈ terms.map (·.var), place v = .error fault := by
    intro terms h
    obtain ⟨t, ht, h⟩ := exists_of_mapM_error h
    exact ⟨t.var, List.mem_map_of_mem ht, error_of_bind_pure h⟩
  cases f with
  | single v => exact ⟨v, List.mem_singleton_self v, error_of_bind_pure h⟩
  | affine terms c => exact hterms (error_of_bind_pure h)
  | quadratic terms products c =>
      rcases bind_eq_error.1 h with h | ⟨_, -, h⟩
      · obtain ⟨t, ht, h⟩ := exists_of_mapM_error h
        rcases bind_eq_error.1 h with h | ⟨_, -, h⟩
        · exact ⟨t.first, List.mem_append_right _ (List.mem_flatMap.2 ⟨t, ht, by simp⟩), h⟩
        · exact ⟨t.second, List.mem_append_right _ (List.mem_flatMap.2 ⟨t, ht, by simp⟩),
            error_of_bind_pure h⟩
      · obtain ⟨v, hv, h⟩ := hterms (error_of_bind_pure h)
        exact ⟨v, List.mem_append_left _ hv, h⟩

theorem exists_place_of_ofFunction [Mul α] [OfScientific α] {f : ScalarFunction α} {e : Expr α}
    (h : ofFunction place f = .ok e) {v : VariableId} (hv : v ∈ f.vars) :
    ∃ p, place v = .ok p := by
  have hterms : ∀ {terms : List (AffineTerm α)} {es : List (Expr α)},
      terms.mapM (ofAffineTerm place) = .ok es → v ∈ terms.map (·.var) → ∃ p, place v = .ok p := by
    intro terms es hes hv
    obtain ⟨t, ht, rfl⟩ := List.mem_map.1 hv
    obtain ⟨e, -, he⟩ := exists_result_of_mem hes ht
    obtain ⟨p, hp, -⟩ := bind_eq_ok.1 he
    exact ⟨p, hp⟩
  cases f with
  | single v' =>
      obtain ⟨p, hp, -⟩ := bind_eq_ok.1 h
      exact ⟨p, List.mem_singleton.1 hv ▸ hp⟩
  | affine terms c =>
      obtain ⟨es, hes, -⟩ := bind_eq_ok.1 h
      exact hterms hes hv
  | quadratic terms products c =>
      obtain ⟨qs, hqs, h⟩ := bind_eq_ok.1 h
      obtain ⟨es, hes, -⟩ := bind_eq_ok.1 h
      rcases List.mem_append.1 hv with hv | hv
      · exact hterms hes hv
      · obtain ⟨t, ht, hv⟩ := List.mem_flatMap.1 hv
        obtain ⟨e, -, he⟩ := exists_result_of_mem hqs ht
        obtain ⟨p, hp, he⟩ := bind_eq_ok.1 he
        obtain ⟨q, hq, -⟩ := bind_eq_ok.1 he
        rcases List.mem_pair.1 hv with rfl | rfl
        · exact ⟨p, hp⟩
        · exact ⟨q, hq⟩

end Expr

/-! ## Comparisons with regions -/

namespace Region

variable {r : Region}

theorem exists_inRegion (h : r.kind ∈ Kind.scalarRegions) (e : Expr) :
    ∃ e', Expr.inRegion e r = .ok e' := by
  cases r with
  | zeroOne | integer => exact absurd h (by decide)
  | _ => exact ⟨_, rfl⟩

end Region

/-! ## Constraints by kinds -/

def Constraint.kinds (c : Constraint) : Kind × Kind := (c.id.function, c.id.region)

/-- The pairs of function and region of algebraic constraints, in the order of enumeration. -/
def Kind.algebraicPairs : List (Kind × Kind) :=
  Kind.algebraicFunctions.flatMap fun f => Kind.scalarRegions.map (f, ·)

/-- A constraint on the value of an affine or a quadratic function. -/
def Constraint.IsAlgebraic (c : Constraint) : Prop := c.function.kind ∈ Kind.algebraicFunctions

instance (c : Constraint) : Decidable c.IsAlgebraic := inferInstanceAs (Decidable (_ ∈ _))

/-- Collecting the entries of a list by their keys only reorders them. -/
theorem flatMap_filter_perm {α β : Type} [DecidableEq β] (key : α → β) (as : List α) {ks : List β}
    (hks : ks.Nodup) :
    (ks.flatMap fun k => as.filter (key · = k)).Perm (as.filter (key · ∈ ks)) := by
  induction ks with
  | nil => simp
  | cons k ks ih =>
      obtain ⟨hk, hks⟩ := List.nodup_cons.1 hks
      have hsplit := List.filter_append_perm (key · = k) (as.filter (key · ∈ k :: ks))
      have hfirst : (as.filter (key · ∈ k :: ks)).filter (key · = k) = as.filter (key · = k) := by
        rw [List.filter_filter]
        refine List.filter_congr fun a _ => ?_
        by_cases ha : key a = k <;> simp [ha]
      have hothers : (as.filter (key · ∈ k :: ks)).filter (fun a => !decide (key a = k)) =
          as.filter (key · ∈ ks) := by
        rw [List.filter_filter]
        refine List.filter_congr fun a _ => ?_
        by_cases ha : key a = k <;> simp [ha, hk]
      rw [hfirst, hothers] at hsplit
      rw [List.flatMap_cons]
      exact ((ih hks).append_left _).trans hsplit

namespace Model

variable {m : Model} {c : Constraint}

theorem algebraicConstraints_perm (m : Model) :
    m.algebraicConstraints.Perm (m.constraints.filter (·.kinds ∈ Kind.algebraicPairs)) := by
  have hgroups : m.algebraicConstraints =
      Kind.algebraicPairs.flatMap fun k => m.constraints.filter (·.kinds = k) := by
    simp only [algebraicConstraints, Kind.algebraicPairs, List.flatMap_assoc, List.flatMap_map,
      group, Constraint.kinds, Prod.mk.injEq]
  rw [hgroups]
  have hnodup : Kind.algebraicPairs.Nodup := by decide
  convert flatMap_filter_perm Constraint.kinds m.constraints hnodup

theorem WellFormed.kinds_mem_algebraicPairs (h : m.WellFormed) (hc : c ∈ m.constraints) :
    c.kinds ∈ Kind.algebraicPairs ↔ c.IsAlgebraic := by
  obtain ⟨hf, hr, hs⟩ := h.wellKinded c hc
  unfold Constraint.kinds Constraint.IsAlgebraic
  rw [hf, hr]
  generalize c.function.kind = f at hs ⊢
  generalize c.region.kind = r at hs ⊢
  revert hs
  cases f <;> cases r <;> decide

theorem WellFormed.algebraicConstraints_perm (h : m.WellFormed) :
    m.algebraicConstraints.Perm (m.constraints.filter (·.IsAlgebraic)) := by
  have hp := m.algebraicConstraints_perm
  rwa [List.filter_congr fun c hc =>
    decide_eq_decide.2 (h.kinds_mem_algebraicPairs hc)] at hp

theorem WellFormed.mem_algebraicConstraints (h : m.WellFormed) :
    c ∈ m.algebraicConstraints ↔ c ∈ m.constraints ∧ c.IsAlgebraic := by
  rw [h.algebraicConstraints_perm.mem_iff, List.mem_filter, decide_eq_true_iff]

theorem WellFormed.length_algebraicConstraints (h : m.WellFormed) :
    m.algebraicConstraints.length = m.constraints.countP (·.IsAlgebraic) := by
  rw [h.algebraicConstraints_perm.length_eq, List.countP_eq_length_filter]

/-! ## Rows -/

theorem WellFormed.region_kind_of_isAlgebraic (h : m.WellFormed) (hc : c ∈ m.constraints)
    (ha : c.IsAlgebraic) : c.region.kind ∈ Kind.scalarRegions := by
  have hk := (h.kinds_mem_algebraicPairs hc).2 ha
  simp only [Kind.algebraicPairs, List.mem_flatMap, List.mem_map, Constraint.kinds,
    Prod.mk.injEq] at hk
  obtain ⟨f, -, r, hr, -, rfl⟩ := hk
  rw [← (h.wellKinded c hc).region]
  exact hr

theorem WellFormed.exists_rows (h : m.WellFormed) {ps : Positions} (hps : ps.vars = m.vars) :
    ∃ rows, m.rows ps.position = .ok rows := by
  refine exists_mapM_eq_ok fun c hc => ?_
  obtain ⟨hc, ha⟩ := h.mem_algebraicConstraints.1 hc
  have hr := h.region_kind_of_isAlgebraic hc ha
  obtain ⟨e, he⟩ := Expr.exists_ofFunction fun v hv =>
    Positions.exists_position (hps ▸ h.constraint_vars c hc v hv)
  obtain ⟨e', he'⟩ := Region.exists_inRegion hr e
  obtain ⟨range, hb⟩ := Region.exists_bounds hr
  exact ⟨_, bind_eq_ok.2 ⟨e', bind_eq_ok.2 ⟨e, he, he'⟩, bind_eq_ok.2 ⟨range, hb, rfl⟩⟩⟩

theorem WellFormed.exists_objectiveExpression (h : m.WellFormed) {ps : Positions}
    (hps : ps.vars = m.vars) : ∃ e, m.objectiveExpression ps.position = .ok e := by
  unfold objectiveExpression
  split
  · exact ⟨none, rfl⟩
  · obtain ⟨e, he⟩ := Expr.exists_ofFunction fun v hv =>
      Positions.exists_position (hps ▸ h.objective_vars v hv)
    exact ⟨_, bind_eq_ok.2 ⟨e, he, rfl⟩⟩

end Model

end Extremum
