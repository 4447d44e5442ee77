import Extremum.Problem.Positions
import Extremum.Proofs.Expr.Resolution

/-!
# Why expressions have no value

Only references to variables of a model, and what is no expression at all, cannot be compiled. A
compiled expression has a value at a vector unless a sum in it overflows, a sum in it has infinite
terms of both signs, or the vector has no entry at one of its positions.
-/

namespace Extremum

variable {x : List Float} {fault : Fault}

/-! ## Sums and products -/

theorem sumAt_eq_error {terms : List Compiled} (h : sumAt terms x = .error fault) :
    (∃ g ∈ terms, g x = .error fault) ∨ fault = .sumOverflow ∨ fault = .sumConflict := by
  have hsum : ∀ {α : Type} {y : Except Decimal.SumFault α}, y.mapError Fault.ofSum = .error fault →
      fault = .sumOverflow ∨ fault = .sumConflict := by
    rintro α ((_ | _) | _) h <;> cases h
    · exact .inl rfl
    · exact .inr rfl
  rcases bind_eq_error.1 h with h | ⟨sum, -, h⟩
  · obtain ⟨sum, g, hg, h⟩ := exists_step_of_foldlM_error h
    rcases bind_eq_error.1 h with h | ⟨y, -, h⟩
    · exact .inl ⟨g, hg, h⟩
    · exact .inr (hsum h)
  · exact .inr (hsum h)

theorem productAt_eq_error {factors : List Compiled} (h : productAt factors x = .error fault) :
    ∃ g ∈ factors, g x = .error fault := by
  obtain ⟨p, g, hg, h⟩ := exists_step_of_foldlM_error h
  exact ⟨g, hg, error_of_bind_pure h⟩

/-! ## Expressions -/

namespace Expr

variable {α : Type}

mutual

/-- The positions that an expression refers to. -/
def positions : Expr α → List Int
  | constant _ => []
  | position p => [p]
  | reference _ => []
  | sum terms => positionsAll terms
  | product factors => positionsAll factors
  | unary _ a => a.positions
  | binary _ a b => a.positions ++ b.positions
  | comparison _ a b => a.positions ++ b.positions
  | interval _ e _ => e.positions
  | foreign _ => []

def positionsAll : List (Expr α) → List Int
  | [] => []
  | e :: rest => e.positions ++ positionsAll rest

end

mutual

theorem position_mem_parts {p : Int} : ∀ e : Expr α, p ∈ e.positions → position p ∈ e.parts
  | constant _, h | reference _, h | foreign _, h => by cases h
  | position q, h => by
      rw [List.mem_singleton.1 h]
      exact List.mem_singleton_self _
  | sum terms, h => List.mem_cons_of_mem _ (position_mem_partsAll terms h)
  | product factors, h => List.mem_cons_of_mem _ (position_mem_partsAll factors h)
  | unary _ a, h => List.mem_cons_of_mem _ (position_mem_parts a h)
  | binary _ a b, h | comparison _ a b, h => by
      refine List.mem_cons_of_mem _ (List.mem_append.2 ?_)
      exact (List.mem_append.1 h).imp (position_mem_parts a) (position_mem_parts b)
  | interval _ e _, h => List.mem_cons_of_mem _ (position_mem_parts e h)

theorem position_mem_partsAll {p : Int} : ∀ es : List (Expr α), p ∈ positionsAll es →
    position p ∈ partsAll es
  | [], h => by cases h
  | e :: rest, h => List.mem_append.2
      ((List.mem_append.1 h).imp (position_mem_parts e) (position_mem_partsAll rest))

end

/-- The faults of a value at a vector that some positions are read from. -/
def MayFault (positions : List Int) (x : List Float) (fault : Fault) : Prop :=
  fault = .sumOverflow ∨ fault = .sumConflict ∨ ∃ p ∈ positions, readEntry x (p - 1) = .error fault

theorem MayFault.mono {ps qs : List Int} (h : MayFault ps x fault) (hsub : ps ⊆ qs) :
    MayFault qs x fault := by
  rcases h with h | h | ⟨p, hp, h⟩
  · exact .inl h
  · exact .inr (.inl h)
  · exact .inr (.inr ⟨p, hsub hp, h⟩)

theorem mayFault_sumAt {gs : List Compiled} {ps : List Int}
    (hgs : ∀ g ∈ gs, g x = .error fault → MayFault ps x fault) (h : sumAt gs x = .error fault) :
    MayFault ps x fault := by
  rcases sumAt_eq_error h with ⟨g, hg, h⟩ | h | h
  · exact hgs g hg h
  · exact .inl h
  · exact .inr (.inl h)

mutual

/-- A compiled expression fails only in its sums and where it reads the vector. -/
theorem mayFault_of_compile : ∀ (e : Expr) {g : Compiled}, e.compile = .ok g →
    g x = .error fault → MayFault e.positions x fault
  | constant c, _, hg, h => by
      cases hg
      cases h
  | position p, _, hg, h => by
      cases hg
      exact .inr (.inr ⟨p, List.mem_singleton_self p, h⟩)
  | reference v, _, hg, _ => by cases hg
  | foreign object, _, hg, _ => by cases hg
  | sum terms, _, hg, h => by
      obtain ⟨gs, hgs, hg⟩ := bind_eq_ok.1 hg
      cases hg
      exact mayFault_sumAt (fun g hg => mayFault_of_compileAll terms hgs hg) h
  | product factors, _, hg, h => by
      obtain ⟨gs, hgs, hg⟩ := bind_eq_ok.1 hg
      cases hg
      obtain ⟨g, hg, h⟩ := productAt_eq_error h
      exact mayFault_of_compileAll factors hgs hg h
  | unary f a, _, hg, h => by
      obtain ⟨g, ha, hg⟩ := bind_eq_ok.1 hg
      cases hg
      exact mayFault_of_compile a ha (error_of_bind_pure h)
  | binary f a b, _, hg, h => by
      obtain ⟨ga, ha, hg⟩ := bind_eq_ok.1 hg
      obtain ⟨gb, hb, hg⟩ := bind_eq_ok.1 hg
      cases hg
      rcases bind_eq_error.1 h with h | ⟨y, -, h⟩
      · exact (mayFault_of_compile a ha h).mono (List.subset_append_left _ _)
      · exact (mayFault_of_compile b hb (error_of_bind_pure h)).mono
          (List.subset_append_right _ _)
  | comparison r a b, _, hg, h => by
      unfold compile at hg
      split at hg
      · exact (mayFault_of_compile a hg h).mono (List.subset_append_left _ _)
      · obtain ⟨ga, ha, hg⟩ := bind_eq_ok.1 hg
        obtain ⟨gb, hb, hg⟩ := bind_eq_ok.1 hg
        cases hg
        refine mayFault_sumAt (fun term hterm hfault => ?_) h
        rcases List.mem_pair.1 hterm with rfl | rfl
        · exact (mayFault_of_compile a ha hfault).mono (List.subset_append_left _ _)
        · obtain ⟨factor, hfactor, hread⟩ := productAt_eq_error hfault
          rcases List.mem_pair.1 hfactor with rfl | rfl
          · cases hread
          · exact (mayFault_of_compile b hb hread).mono (List.subset_append_right _ _)
  | interval l e u, _, hg, h => mayFault_of_compile e hg h

theorem mayFault_of_compileAll : ∀ (es : List Expr) {gs : List Compiled},
    compileAll es = .ok gs → ∀ {g : Compiled}, g ∈ gs → g x = .error fault →
      MayFault (positionsAll es) x fault
  | [], _, hgs, _, hg, _ => by
      cases hgs
      cases hg
  | e :: rest, _, hgs, g, hg, h => by
      obtain ⟨g', he, hgs⟩ := bind_eq_ok.1 hgs
      obtain ⟨gs', hrest, hgs⟩ := bind_eq_ok.1 hgs
      cases hgs
      rcases List.mem_cons.1 hg with rfl | hg
      · exact (mayFault_of_compile e he h).mono (List.subset_append_left _ _)
      · exact (mayFault_of_compileAll rest hrest hg h).mono (List.subset_append_right _ _)

end

end Expr

/-! ## Compiling -/

namespace Expr

/-- The faults of what cannot be compiled. -/
def NotCompilable (fault : Fault) : Prop :=
  fault = .unresolvedReference ∨ ∃ kind, fault = .unsupportedNode kind

theorem notCompilable_of_compile (e : Expr) (h : e.compile = .error fault) :
    NotCompilable fault := by
  have hfault : fault ∈ e.obstacles := List.mem_of_mem_head? (compile_eq_error.1 h)
  obtain ⟨d, -, hd⟩ := List.mem_filterMap.1 hfault
  cases d with
  | reference v =>
      cases hd
      exact .inl rfl
  | foreign object =>
      cases hd
      exact .inr ⟨object.kind, rfl⟩
  | _ => cases hd

end Expr

/-! ## Reading the vector -/

theorem readEntry_eq_ok {p : Int} (hpos : 1 ≤ p) (hle : p ≤ x.length)
    (hlimit : x.length ≤ indexLimit) : ∃ y, readEntry x (p - 1) = .ok y := by
  have hlt : (p - 1).toNat < x.length := by omega
  refine ⟨x[(p - 1).toNat], ?_⟩
  have hlimit' : (0x8000000000000000 : Int) = indexLimit := rfl
  unfold readEntry
  rw [if_neg (by omega), if_neg (by omega), if_neg (by omega : ¬ p - 1 < 0)]
  dsimp only
  rw [if_neg (by omega), List.getElem?_eq_getElem hlt]

theorem readEntry_eq_error {p : Int} (h : readEntry x p = .error fault) :
    fault = .unusableIndex ∨ fault = .outsideWord ∨ fault = .outOfBounds p x.length := by
  unfold readEntry at h
  generalize (if p < 0 then p + (x.length : Int) else p) = i at h
  split at h
  · cases h
    exact .inl rfl
  split at h
  · cases h
    exact .inr (.inl rfl)
  dsimp only at h
  split at h
  · cases h
    exact .inr (.inr rfl)
  split at h
  · cases h
  · cases h
    exact .inr (.inr rfl)

/-- Evaluating an expression never meets a variable that is not known. -/
theorem Expr.evaluate_ne_unknownVariable {e : Expr} (v : VariableId) :
    e.evaluate x ≠ .error (.unknownVariable v) := by
  intro h
  rcases bind_eq_error.1 h with h | ⟨g, hg, h⟩
  · rcases notCompilable_of_compile e h with h | ⟨kind, h⟩ <;> cases h
  · rcases mayFault_of_compile e hg h with h | h | ⟨p, -, h⟩
    · cases h
    · cases h
    · rcases readEntry_eq_error h with h | h | h <;> cases h

/-- At a vector that has entries at all positions, only sums are without value. -/
theorem Expr.MayFault.of_positions {ps : List Int} (h : MayFault ps x fault)
    (hps : ∀ p ∈ ps, 1 ≤ p ∧ p ≤ x.length) (hlimit : x.length ≤ indexLimit) :
    fault = .sumOverflow ∨ fault = .sumConflict := by
  rcases h with h | h | ⟨p, hp, h⟩
  · exact .inl h
  · exact .inr h
  · obtain ⟨y, hy⟩ := readEntry_eq_ok (hps p hp).1 (hps p hp).2 hlimit
    cases hy.symm.trans h

/-! ## Expressions without references -/

namespace Expr

/--
At a vector with an entry at each position in the expression, there is a value unless a sum
overflows or has infinite terms of both signs. The vector is one that a machine word can index.
-/
def FailsOnlyInSums (e : Expr) : Prop :=
  ∀ x : List Float, x.length ≤ indexLimit → (∀ p, position p ∈ e.parts → 1 ≤ p ∧ p ≤ x.length) →
    ∀ fault, e.evaluate x = .error fault → fault = .sumOverflow ∨ fault = .sumConflict

theorem IsResolved.failsOnlyInSums {e : Expr} (h : e.IsResolved) : e.FailsOnlyInSums := by
  intro x hlimit hx fault hfault
  obtain ⟨g, hg⟩ := exists_compile_iff.2 h
  rw [evaluate, hg] at hfault
  exact (mayFault_of_compile e hg hfault).of_positions
    (fun p hp => hx p (position_mem_parts e hp)) hlimit

/--
Compiling an expression comes to an end, although a comparison is compiled as what it constrains. It
succeeds if and only if no reference to a variable of a model and no foreign object occurs in the
expression; if not, then the first of these decides the fault, at whatever vector. A compiled
expression has a value wherever the vector has entries at its positions, exact sums apart. Once its
references are resolved, an expression without foreign objects can be compiled.
-/
theorem compilable_iff_isResolved (e : Expr) :
    Acc (fun c d : Expr => c ∈ d.prerequisites) e ∧ e.body.compile = e.compile ∧
      ((∃ g, e.compile = .ok g) ↔ e.IsResolved) ∧
      (∀ fault, e.compile = .error fault ↔ e.parts.findSome? obstacle? = some fault) ∧
      (∀ fault, e.compile = .error fault → ∀ x, e.evaluate x = .error fault) ∧
      (e.IsResolved → e.FailsOnlyInSums) ∧
      ∀ place e', e.resolve place = .ok e' → (∀ object, foreign object ∉ e.parts) →
        (∃ g, e'.compile = .ok g) ∧ e'.FailsOnlyInSums := by
  refine ⟨wellFounded_prerequisites.apply e, compile_body e, exists_compile_iff, fun fault => ?_,
    fun fault hfault x => ?_, IsResolved.failsOnlyInSums, fun place e' hresolve hforeign => ?_⟩
  · rw [compile_eq_error, obstacles, List.head?_filterMap]
  · rw [evaluate, hfault]
    rfl
  · have hresolved : e'.IsResolved := (isResolved_of_resolve hresolve).2 hforeign
    exact ⟨exists_compile_iff.2 hresolved, hresolved.failsOnlyInSums⟩

/-- In `1 ≤ (exp(v₂) ≥ v₁) ≤ 2` a difference is compiled, once `v₂` and `v₁` are resolved. -/
theorem compilable_exponential :
    let ps : Positions := ⟨[⟨2⟩, ⟨1⟩], by decide⟩
    let e : Expr := interval 1 (comparison .ge (unary .exp (reference ⟨2⟩)) (reference ⟨1⟩)) 2
    let e' : Expr := interval 1 (comparison .ge (unary .exp (position 1)) (position 2)) 2
    e.compile = .error .unresolvedReference ∧ e.resolve ps.position = .ok e' ∧
      (∃ g, e'.compile = .ok g) ∧ ∀ y z fault, e'.evaluate [y, z] = .error fault →
        fault = .sumOverflow ∨ fault = .sumConflict := by
  intro ps e e'
  have hresolve : e.resolve ps.position = .ok e' := rfl
  obtain ⟨-, -, -, hfault, -, -, hplaced⟩ := compilable_iff_isResolved e
  have hforeign : ∀ object, foreign object ∉ e.parts := by simp [e, parts]
  obtain ⟨hcompile, hsums⟩ := hplaced ps.position e' hresolve hforeign
  refine ⟨(hfault _).2 rfl, hresolve, hcompile, fun y z => hsums [y, z] ?_ ?_⟩
  · show (2 : Int) ≤ indexLimit
    decide
  · simp [e', parts]

end Expr

end Extremum
