import Extremum.Proofs.Expr.Arithmetic
import Extremum.Proofs.Expr.Resolution
import Extremum.Proofs.Problem.Positions

/-!
# Resolving references to positions

To resolve an expression is to put a position in the place of each reference and to leave all else
as it is. It fails exactly if a reference has no position; the first of these, from left to right,
is named.
-/

namespace Extremum

/-! ## Variables that are all known -/

namespace Positions

variable {α β : Type}

/-- A result, unless one of the variables has no position. The first such variable is named. -/
def unlessMissing (ps : Positions) (vs : List VariableId) (a : α) : Except Fault α :=
  match vs.find? (· ∉ ps.vars) with
  | some v => .error (.unknownVariable v)
  | none => .ok a

variable {ps : Positions} {vs ws : List VariableId} {a : α}

theorem position_eq (v : VariableId) : ps.position v = ps.unlessMissing [v] (ps.index v) := by
  by_cases hv : v ∈ ps.vars
  · rw [position_of_mem hv, unlessMissing, List.find?_eq_none.2 (by simpa using hv)]
    rfl
  · rw [position_of_not_mem hv, unlessMissing, List.find?_cons_of_pos (by simpa using hv)]

/-- Only the first of two steps has to be known to say what both of them miss. -/
theorem unlessMissing_bind {k : α → Except Fault β} {b : β} (h : k a = ps.unlessMissing ws b) :
    (ps.unlessMissing vs a >>= k) = ps.unlessMissing (vs ++ ws) b := by
  simp only [unlessMissing, List.find?_append] at h ⊢
  cases vs.find? (· ∉ ps.vars) with
  | some v => rfl
  | none => exact h

theorem unlessMissing_map (f : α → β) :
    (ps.unlessMissing vs a >>= fun a => pure (f a)) = ps.unlessMissing vs (f a) := by
  have h : (ps.unlessMissing vs a >>= fun a => pure (f a)) =
      ps.unlessMissing (vs ++ []) (f a) := unlessMissing_bind rfl
  rwa [List.append_nil] at h

theorem unlessMissing_eq_ok {b : α} :
    ps.unlessMissing vs a = .ok b ↔ (∀ v ∈ vs, v ∈ ps.vars) ∧ b = a := by
  unfold unlessMissing
  split
  · rename_i v hv
    have hmem := List.mem_of_find?_eq_some hv
    have hmissing : v ∉ ps.vars := by simpa using List.find?_some hv
    exact ⟨nofun, fun h => absurd (h.1 v hmem) hmissing⟩
  · rename_i hnone
    have hall : ∀ v ∈ vs, v ∈ ps.vars := by simpa using hnone
    constructor
    · rintro ⟨⟩
      exact ⟨hall, rfl⟩
    · rintro ⟨-, rfl⟩
      rfl

theorem unlessMissing_eq_error {fault : Fault} :
    ps.unlessMissing vs a = .error fault ↔
      ∃ v, vs.find? (· ∉ ps.vars) = some v ∧ fault = .unknownVariable v := by
  unfold unlessMissing
  split
  · rename_i v hv
    rw [hv]
    constructor
    · rintro ⟨⟩
      exact ⟨v, rfl, rfl⟩
    · rintro ⟨_, ⟨⟩, rfl⟩
      rfl
  · rename_i hnone
    rw [hnone]
    exact ⟨nofun, nofun⟩

end Positions

namespace Expr

variable {α : Type} {index : VariableId → Nat} {ps : Positions}

/-! ## Positions in the place of references -/

mutual

/-- The expression with a position in the place of every reference. All else stays. -/
def placed (index : VariableId → Nat) : Expr α → Expr α
  | constant c => constant c
  | position p => position p
  | reference v => position (index v)
  | sum terms => sum (placedAll index terms)
  | product factors => product (placedAll index factors)
  | unary f a => unary f (placed index a)
  | binary f a b => binary f (placed index a) (placed index b)
  | comparison r a b => comparison r (placed index a) (placed index b)
  | interval l e u => interval l (placed index e) u
  | foreign object => foreign object

def placedAll (index : VariableId → Nat) : List (Expr α) → List (Expr α)
  | [] => []
  | e :: rest => placed index e :: placedAll index rest

end

mutual

/-- An expression is resolved from left to right, up to the first reference without a position. -/
theorem resolve_eq : (e : Expr α) →
    e.resolve ps.position = ps.unlessMissing e.references (e.placed ps.index)
  | constant _ | position _ | foreign _ => rfl
  | reference v => by
      rw [resolve, Positions.position_eq, Positions.unlessMissing_map]
      rfl
  | sum terms => by
      rw [resolve, resolveAll_eq terms, Positions.unlessMissing_map]
      rfl
  | product factors => by
      rw [resolve, resolveAll_eq factors, Positions.unlessMissing_map]
      rfl
  | unary f a => by
      rw [resolve, resolve_eq a, Positions.unlessMissing_map]
      rfl
  | binary f a b => by
      rw [resolve, resolve_eq a]
      refine Positions.unlessMissing_bind ?_
      rw [resolve_eq b, Positions.unlessMissing_map]
      rfl
  | comparison r a b => by
      rw [resolve, resolve_eq a]
      refine Positions.unlessMissing_bind ?_
      rw [resolve_eq b, Positions.unlessMissing_map]
      rfl
  | interval l e u => by
      rw [resolve, resolve_eq e, Positions.unlessMissing_map]
      rfl

theorem resolveAll_eq : (es : List (Expr α)) →
    resolveAll ps.position es = ps.unlessMissing (referencesAll es) (placedAll ps.index es)
  | [] => rfl
  | e :: rest => by
      rw [resolveAll, resolve_eq e]
      refine Positions.unlessMissing_bind ?_
      rw [resolveAll_eq rest, Positions.unlessMissing_map]
      rfl

end

mutual

theorem references_placed : (e : Expr α) → (e.placed index).references = []
  | constant _ | position _ | reference _ | foreign _ => rfl
  | sum terms => referencesAll_placedAll terms
  | product factors => referencesAll_placedAll factors
  | unary _ a => references_placed a
  | binary _ a b => by
      rw [placed, references, references_placed a, references_placed b, List.append_nil]
  | comparison _ a b => by
      rw [placed, references, references_placed a, references_placed b, List.append_nil]
  | interval _ e _ => references_placed e

theorem referencesAll_placedAll : (es : List (Expr α)) → referencesAll (placedAll index es) = []
  | [] => rfl
  | e :: rest => by
      rw [placedAll, referencesAll, references_placed e, referencesAll_placedAll rest,
        List.append_nil]

end

mutual

/-- Without references there is nothing left to place. -/
theorem placed_placed {index' : VariableId → Nat} : (e : Expr α) →
    (e.placed index).placed index' = e.placed index
  | constant _ | position _ | reference _ | foreign _ => rfl
  | sum terms => congrArg sum (placedAll_placedAll terms)
  | product factors => congrArg product (placedAll_placedAll factors)
  | unary f a => congrArg (unary f) (placed_placed a)
  | binary f a b => congrArg₂ (binary f) (placed_placed a) (placed_placed b)
  | comparison r a b => congrArg₂ (comparison r) (placed_placed a) (placed_placed b)
  | interval l e u => congrArg (interval l · u) (placed_placed e)

theorem placedAll_placedAll {index' : VariableId → Nat} : (es : List (Expr α)) →
    placedAll index' (placedAll index es) = placedAll index es
  | [] => rfl
  | e :: rest => congrArg₂ List.cons (placed_placed e) (placedAll_placedAll rest)

end

/-! ## What a comparison constrains -/

/-- What a comparison constrains refers to the variables that the comparison refers to. -/
theorem references_body (e : Expr) : e.body.references = e.references := by
  cases e with
  | comparison r a b =>
      cases b with
      | constant c => exact (List.append_nil _).symm
      | _ => simp [body, references, referencesAll]
  | _ => rfl

/-- A placed comparison constrains what is placed of the original. -/
theorem body_placed (e : Expr) : (e.placed index).body = e.body.placed index := by
  cases e with
  | comparison r a b => cases b <;> rfl
  | _ => rfl

/-! ## Values -/

/-- References that stand for the entries of the vector at the indices of the variables. -/
def reading (A : Arithmetic α) (index : VariableId → Nat) (v : VariableId) :
    Except Fault (Computation α) :=
  .ok fun x => A.read x (index v - 1)

mutual

/-- A placed expression computes what the original does if its references read the vector. -/
theorem compileIn_placed (A : Arithmetic α) : (e : Expr α) →
    (e.placed index).compileIn A unresolved = e.compileIn A (reading A index)
  | constant _ | position _ | reference _ | foreign _ => rfl
  | sum terms => by rw [placed, compileIn, compileIn, compileAllIn_placedAll A terms]
  | product factors => by rw [placed, compileIn, compileIn, compileAllIn_placedAll A factors]
  | unary f a => by rw [placed, compileIn, compileIn, compileIn_placed A a]
  | binary f a b => by
      rw [placed, compileIn, compileIn, compileIn_placed A a, compileIn_placed A b]
  | comparison r a b => by
      have ha := compileIn_placed A a
      have hb := compileIn_placed A b
      -- A constant on the right stays a constant, and nothing else becomes one.
      cases b with
      | constant c => rw [placed, placed, compileIn, compileIn, ha]
      | _ =>
          rw [placed, compileIn_comparison (by simp [placed]), compileIn_comparison (by simp),
            ha, hb]
  | interval l e u => by rw [placed, compileIn, compileIn, compileIn_placed A e]

theorem compileAllIn_placedAll (A : Arithmetic α) : (es : List (Expr α)) →
    compileAllIn A unresolved (placedAll index es) = compileAllIn A (reading A index) es
  | [] => rfl
  | e :: rest => by
      rw [placedAll, compileAllIn, compileAllIn, compileIn_placed A e,
        compileAllIn_placedAll A rest]

end

theorem evaluate_placed (e : Expr) (x : List Float) :
    (e.placed index).evaluate x = e.evaluateIn .floats (reading .floats index) x := by
  rw [evaluate_eq_evaluateIn, evaluateIn, evaluateIn, compileIn_placed]

/-! ## Resolving -/

/--
An expression is resolved if and only if all variables that it refers to have positions; if not, the
first of them without a position is named. What comes out is the expression with the positions of
its references in their places. It refers to no variable, is resolved to itself from then on, and
constrains what the original constrains. Its value at a vector is the value of the original with
references that stand for the entries at their positions.
-/
theorem resolve_faithful (e : Expr) (ps : Positions) :
    ((∃ e', e.resolve ps.position = .ok e') ↔ ∀ v ∈ e.references, v ∈ ps.vars) ∧
    (∀ fault, e.resolve ps.position = .error fault ↔
      ∃ v, e.references.find? (· ∉ ps.vars) = some v ∧ fault = .unknownVariable v) ∧
    ∀ e', e.resolve ps.position = .ok e' →
      (∀ v ∈ e.references, ps.position v = .ok (ps.index v)) ∧ e' = e.placed ps.index ∧
      e'.references = [] ∧ (∀ qs : Positions, e'.resolve qs.position = .ok e') ∧
      e.body.resolve ps.position = .ok e'.body ∧
      ∀ x, e'.evaluate x = e.evaluateIn .floats (reading .floats ps.index) x := by
  have hok : ∀ e', e.resolve ps.position = .ok e' ↔
      (∀ v ∈ e.references, v ∈ ps.vars) ∧ e' = e.placed ps.index := fun e' => by
    rw [resolve_eq, Positions.unlessMissing_eq_ok]
  refine ⟨?_, ?_, ?_⟩
  · simp only [hok, exists_and_left, exists_eq, and_true]
  · intro fault
    rw [resolve_eq, Positions.unlessMissing_eq_error]
  · intro e' h
    obtain ⟨hknown, rfl⟩ := (hok e').1 h
    refine ⟨fun v hv => Positions.position_of_mem (hknown v hv), rfl, references_placed e, ?_, ?_,
      evaluate_placed e⟩
    · intro qs
      rw [resolve_eq, references_placed, placed_placed]
      rfl
    · rw [body_placed, resolve_eq, Positions.unlessMissing_eq_ok, references_body]
      exact ⟨hknown, rfl⟩

/-- The comparison `1 ≤ (exp(v₂) ≥ v₁) ≤ 2`, with `v₁` and `v₂` in the second and first position. -/
theorem resolve_faithful_nested :
    let ps : Positions := ⟨[⟨2⟩, ⟨1⟩], by decide⟩
    let e : Expr := interval 1 (comparison .ge (unary .exp (reference ⟨2⟩)) (reference ⟨1⟩)) 2
    let e' : Expr := interval 1 (comparison .ge (unary .exp (position 1)) (position 2)) 2
    e.resolve ps.position = .ok e' ∧ e.body.resolve ps.position = .ok e'.body ∧
      ∀ x, e'.evaluate x = e.evaluateIn .floats (reading .floats ps.index) x := by
  intro ps e e'
  have hresolve : e.resolve ps.position = .ok e' := rfl
  obtain ⟨-, -, -, -, hbody, hvalue⟩ := (resolve_faithful e ps).2.2 e' hresolve
  exact ⟨hresolve, hbody, hvalue⟩

end Expr

end Extremum
