import Extremum.Expr.Resolution
import Extremum.Proofs.Expr.Compilation

/-!
# When references can be resolved

An expression can be resolved if and only if every variable of a model that it refers to has a
place. If one has none, then the reason for that is the fault. All that occurs in an expression is
resolved together with it, so no reference is left then.
-/

namespace Extremum

namespace Expr

variable {α : Type} {place : VariableId → Except Fault Nat} {fault : Fault}

mutual

/-- The variables of a model that an expression refers to. -/
def references : Expr α → List VariableId
  | constant _ => []
  | position _ => []
  | reference v => [v]
  | sum terms => referencesAll terms
  | product factors => referencesAll factors
  | unary _ a => a.references
  | binary _ a b => a.references ++ b.references
  | comparison _ a b => a.references ++ b.references
  | interval _ e _ => e.references
  | foreign _ => []

def referencesAll : List (Expr α) → List VariableId
  | [] => []
  | e :: rest => e.references ++ referencesAll rest

end

mutual

/-- If an expression cannot be resolved, then one of its references has no place. -/
theorem exists_reference_of_resolve_error : ∀ e : Expr α, e.resolve place = .error fault →
    ∃ v ∈ e.references, place v = .error fault
  | constant _, h => by cases h
  | position _, h => by cases h
  | foreign _, h => by cases h
  | reference v, h => ⟨v, List.mem_singleton_self v, error_of_bind_pure h⟩
  | sum terms, h => exists_reference_of_resolveAll_error terms (error_of_bind_pure h)
  | product factors, h => exists_reference_of_resolveAll_error factors (error_of_bind_pure h)
  | unary f a, h => exists_reference_of_resolve_error a (error_of_bind_pure h)
  | binary _ a b, h | comparison _ a b, h => by
      rcases bind_eq_error.1 h with h | ⟨_, -, h⟩
      · obtain ⟨v, hv, hplace⟩ := exists_reference_of_resolve_error a h
        exact ⟨v, List.mem_append_left _ hv, hplace⟩
      · obtain ⟨v, hv, hplace⟩ := exists_reference_of_resolve_error b (error_of_bind_pure h)
        exact ⟨v, List.mem_append_right _ hv, hplace⟩
  | interval l e u, h => exists_reference_of_resolve_error e (error_of_bind_pure h)

theorem exists_reference_of_resolveAll_error : ∀ es : List (Expr α),
    resolveAll place es = .error fault → ∃ v ∈ referencesAll es, place v = .error fault
  | [], h => by cases h
  | e :: rest, h => by
      rcases bind_eq_error.1 h with h | ⟨_, -, h⟩
      · obtain ⟨v, hv, hplace⟩ := exists_reference_of_resolve_error e h
        exact ⟨v, List.mem_append_left _ hv, hplace⟩
      · obtain ⟨v, hv, hplace⟩ :=
          exists_reference_of_resolveAll_error rest (error_of_bind_pure h)
        exact ⟨v, List.mem_append_right _ hv, hplace⟩

end

/-! ## Resolved expressions -/

mutual

/-- What occurs in a resolved expression is what occurs in the original, resolved. -/
theorem parts_of_resolve : ∀ (e : Expr α) {e' : Expr α}, e.resolve place = .ok e' →
    List.Forall₂ (fun d d' => d.resolve place = .ok d') e.parts e'.parts
  | constant _, _, h | position _, _, h | foreign _, _, h => by
      cases h
      exact .cons rfl .nil
  | reference v, _, h => by
      obtain ⟨p, hp, he⟩ := bind_eq_ok.1 h
      cases he
      exact .cons h .nil
  | sum es, _, h | product es, _, h => by
      obtain ⟨es', hes, he⟩ := bind_eq_ok.1 h
      cases he
      exact .cons h (partsAll_of_resolveAll es hes)
  | unary f a, _, h => by
      obtain ⟨a', ha, he⟩ := bind_eq_ok.1 h
      cases he
      exact .cons h (parts_of_resolve a ha)
  | binary _ a b, _, h | comparison _ a b, _, h => by
      obtain ⟨a', ha, h'⟩ := bind_eq_ok.1 h
      obtain ⟨b', hb, he⟩ := bind_eq_ok.1 h'
      cases he
      exact .cons h (List.rel_append (parts_of_resolve a ha) (parts_of_resolve b hb))
  | interval l e u, _, h => by
      obtain ⟨e', he, h'⟩ := bind_eq_ok.1 h
      cases h'
      exact .cons h (parts_of_resolve e he)

theorem partsAll_of_resolveAll : ∀ (es : List (Expr α)) {es' : List (Expr α)},
    resolveAll place es = .ok es' →
      List.Forall₂ (fun d d' => d.resolve place = .ok d') (partsAll es) (partsAll es')
  | [], _, h => by
      cases h
      exact .nil
  | e :: rest, _, h => by
      obtain ⟨e', he, h'⟩ := bind_eq_ok.1 h
      obtain ⟨rest', hrest, h'⟩ := bind_eq_ok.1 h'
      cases h'
      exact List.rel_append (parts_of_resolve e he) (partsAll_of_resolveAll rest hrest)

end

mutual

theorem reference_mem_parts {v : VariableId} : ∀ e : Expr α, v ∈ e.references →
    reference v ∈ e.parts
  | constant _, h | position _, h | foreign _, h => by cases h
  | reference w, h => by
      rw [List.mem_singleton.1 h]
      exact List.mem_singleton_self _
  | sum terms, h => List.mem_cons_of_mem _ (reference_mem_partsAll terms h)
  | product factors, h => List.mem_cons_of_mem _ (reference_mem_partsAll factors h)
  | unary _ a, h => List.mem_cons_of_mem _ (reference_mem_parts a h)
  | binary _ a b, h | comparison _ a b, h => by
      refine List.mem_cons_of_mem _ (List.mem_append.2 ?_)
      exact (List.mem_append.1 h).imp (reference_mem_parts a) (reference_mem_parts b)
  | interval _ e _, h => List.mem_cons_of_mem _ (reference_mem_parts e h)

theorem reference_mem_partsAll {v : VariableId} : ∀ es : List (Expr α), v ∈ referencesAll es →
    reference v ∈ partsAll es
  | [], h => by cases h
  | e :: rest, h => List.mem_append.2
      ((List.mem_append.1 h).imp (reference_mem_parts e) (reference_mem_partsAll rest))

end

/-- If an expression is resolved, then all its references have places. -/
theorem exists_place_of_resolve (e : Expr α) {e' : Expr α} (h : e.resolve place = .ok e') :
    ∀ v ∈ e.references, ∃ p, place v = .ok p := by
  intro v hv
  have hparts := mapM_eq_ok.2 (parts_of_resolve e h)
  obtain ⟨d, -, hd⟩ := exists_result_of_mem hparts (reference_mem_parts e hv)
  obtain ⟨p, hp, -⟩ := bind_eq_ok.1 hd
  exact ⟨p, hp⟩

theorem resolve_ne_reference (d : Expr α) (v : VariableId) :
    d.resolve place ≠ .ok (reference v) := by
  cases d <;> simp [resolve, bind_eq_ok, pure_eq_ok, -bind_pure_comp]

theorem eq_foreign_of_resolve {d : Expr α} {object : Region}
    (h : d.resolve place = .ok (foreign object)) : d = foreign object := by
  cases d <;> simp_all [resolve, bind_eq_ok, pure_eq_ok, -bind_pure_comp]

/-- Resolving replaces all references and keeps all foreign objects. -/
theorem isResolved_of_resolve {e e' : Expr α} (h : e.resolve place = .ok e') :
    e'.IsResolved ↔ ∀ object, foreign object ∉ e.parts := by
  have hparts := mapM_eq_ok.2 (parts_of_resolve e h)
  constructor
  · intro hresolved object hmem
    obtain ⟨d', hd', hd⟩ := exists_result_of_mem hparts hmem
    cases hd
    exact hresolved.2 object hd'
  · intro hforeign
    refine ⟨fun v hv => ?_, fun object hobject => ?_⟩
    · obtain ⟨d, -, hd⟩ := exists_source_of_mem hparts hv
      exact resolve_ne_reference d v hd
    · obtain ⟨d, hmem, hd⟩ := exists_source_of_mem hparts hobject
      exact hforeign object (eq_foreign_of_resolve hd ▸ hmem)

end Expr

end Extremum
