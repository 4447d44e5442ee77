import Extremum.Expr.OfFunction
import Extremum.Proofs.Expr.Evaluation
import Extremum.Proofs.Expr.Placement
import Extremum.Proofs.Number.Difference
import Extremum.Proofs.Problem.Rows

/-!
# What the expression of a function computes

The expression of a function is a polynomial in the entries of the vector. In exact arithmetic it
has the value of the function: its constant, its affine terms and its quadratic terms added up,
where a quadratic term with one variable twice counts half.
-/

namespace Extremum

variable {α β : Type}

/-! ## Functions with other coefficients -/

namespace ScalarFunction

/-- The function with its coefficients mapped. -/
def map (k : α → β) : ScalarFunction α → ScalarFunction β
  | single v => single v
  | affine terms c => affine (terms.map fun t => ⟨k t.coefficient, t.var⟩) (k c)
  | quadratic terms products c =>
    quadratic (terms.map fun t => ⟨k t.coefficient, t.var⟩)
      (products.map fun t => ⟨k t.coefficient, t.first, t.second⟩) (k c)

/-- The function with the exact values of its coefficients. -/
def exact (f : ScalarFunction) : ScalarFunction ℚ := f.map Number.exact

/-- The quadratic terms of a function. -/
def products : ScalarFunction α → List (QuadraticTerm α)
  | single _ => []
  | affine _ _ => []
  | quadratic _ products _ => products

/-- The variables in the order in which their positions are looked up. -/
def lookedUp : ScalarFunction α → List VariableId
  | single v => [v]
  | affine terms _ => terms.map (·.var)
  | quadratic terms products _ =>
    (products.flatMap fun t => [t.first, t.second]) ++ terms.map (·.var)

/-- The value of a function. Terms that mention the same variables are added up. -/
def value (y : VariableId → ℚ) : ScalarFunction ℚ → ℚ
  | single v => y v
  | affine terms c => c + (terms.map fun t => t.coefficient * y t.var).sum
  | quadratic terms products c =>
    c + (terms.map fun t => t.coefficient * y t.var).sum +
      (products.map fun t =>
        if t.first = t.second then 1 / 2 * t.coefficient * y t.first ^ 2
        else t.coefficient * y t.first * y t.second).sum

theorem mem_lookedUp {f : ScalarFunction α} {v : VariableId} : v ∈ f.lookedUp ↔ v ∈ f.vars := by
  cases f with
  | single w => rfl
  | affine terms c => rfl
  | quadratic terms products c => rw [lookedUp, vars, List.mem_append, List.mem_append, or_comm]

theorem vars_map (k : α → β) (f : ScalarFunction α) : (f.map k).vars = f.vars := by
  cases f with
  | single v => rfl
  | affine terms c => simp only [map, vars, List.map_map, Function.comp_def]
  | quadratic terms products c =>
      simp only [map, vars, List.map_map, List.flatMap_map, Function.comp_def]

end ScalarFunction

namespace Positions

variable {ps : Positions}

theorem unlessMissing_mapM {f : α → Except Fault β} {vs : α → List VariableId} {g : α → β}
    (h : ∀ a, f a = ps.unlessMissing (vs a) (g a)) (as : List α) :
    as.mapM f = ps.unlessMissing (as.flatMap vs) (as.map g) := by
  induction as with
  | nil => rfl
  | cons a as ih =>
      rw [List.mapM_cons, h]
      refine unlessMissing_bind ?_
      rw [ih, unlessMissing_map]
      rfl

end Positions

namespace Expr

/-! ## Expressions of functions -/

section

variable (index : VariableId → Nat)

/-- The product of an affine term. -/
def affineProduct (t : AffineTerm α) : Expr α :=
  product [constant t.coefficient, position (index t.var)]

/-- The product of a quadratic term. -/
def quadraticProduct [Mul α] [OfScientific α] (t : QuadraticTerm α) : Expr α :=
  product [constant (if index t.first = index t.second then t.coefficient * 0.5 else t.coefficient),
    position (index t.first), position (index t.second)]

/-- The expression of a function all variables of which have positions. -/
def polynomial [Mul α] [OfScientific α] : ScalarFunction α → Expr α
  | .single v => position (index v)
  | .affine terms c => sum (constant c :: terms.map (affineProduct index))
  | .quadratic terms products c =>
    sum (constant c :: (terms.map (affineProduct index) ++ products.map (quadraticProduct index)))

variable {ps : Positions}

theorem ofAffineTerms_eq (terms : List (AffineTerm α)) :
    terms.mapM (ofAffineTerm ps.position) =
      ps.unlessMissing (terms.map (·.var)) (terms.map (affineProduct ps.index)) := by
  have hterm (t : AffineTerm α) :
      ofAffineTerm ps.position t = ps.unlessMissing [t.var] (affineProduct ps.index t) := by
    rw [ofAffineTerm, Positions.position_eq, Positions.unlessMissing_map]
    rfl
  rw [Positions.unlessMissing_mapM hterm, ← List.map_eq_flatMap]

theorem ofQuadraticTerms_eq [Mul α] [OfScientific α] (products : List (QuadraticTerm α)) :
    products.mapM (ofQuadraticTerm ps.position) =
      ps.unlessMissing (products.flatMap fun t => [t.first, t.second])
        (products.map (quadraticProduct ps.index)) := by
  refine Positions.unlessMissing_mapM (fun t => ?_) products
  have hsecond (f : Nat → Expr α) : (ps.position t.second >>= fun q => pure (f q)) =
      ps.unlessMissing [t.second] (f (ps.index t.second)) := by
    rw [Positions.position_eq, Positions.unlessMissing_map]
  rw [ofQuadraticTerm, Positions.position_eq t.first]
  exact Positions.unlessMissing_bind (hsecond _)

/-- A function has an expression unless a variable of it has no position. -/
theorem ofFunction_eq [Mul α] [OfScientific α] (f : ScalarFunction α) :
    ofFunction ps.position f = ps.unlessMissing f.lookedUp (polynomial ps.index f) := by
  cases f with
  | single v =>
      rw [ofFunction, Positions.position_eq, Positions.unlessMissing_map]
      rfl
  | affine terms c =>
      rw [ofFunction, ofAffineTerms_eq, Positions.unlessMissing_map]
      rfl
  | quadratic terms products c =>
      rw [ofFunction, ofQuadraticTerms_eq]
      refine Positions.unlessMissing_bind ?_
      rw [ofAffineTerms_eq, Positions.unlessMissing_map]
      rfl

/-! ## Positions -/

theorem positionsAll_append (es es' : List (Expr α)) :
    positionsAll (es ++ es') = positionsAll es ++ positionsAll es' := by
  induction es with
  | nil => rfl
  | cons e es ih => rw [List.cons_append, positionsAll, positionsAll, ih, List.append_assoc]

theorem positionsAll_affineProducts (terms : List (AffineTerm α)) :
    positionsAll (terms.map (affineProduct index)) =
      (terms.map (·.var)).map fun v => (index v : Int) := by
  induction terms with
  | nil => rfl
  | cons t terms ih => exact congrArg (_ :: ·) ih

theorem positionsAll_quadraticProducts [Mul α] [OfScientific α]
    (products : List (QuadraticTerm α)) :
    positionsAll (products.map (quadraticProduct index)) =
      (products.flatMap fun t => [t.first, t.second]).map fun v => (index v : Int) := by
  induction products with
  | nil => rfl
  | cons t products ih => exact congrArg (_ :: _ :: ·) ih

/-- The expression of a function refers to the positions of its variables, in their order. -/
theorem positions_polynomial [Mul α] [OfScientific α] (f : ScalarFunction α) :
    (polynomial index f).positions = f.vars.map fun v => (index v : Int) := by
  cases f with
  | single v => rfl
  | affine terms c => exact positionsAll_affineProducts index terms
  | quadratic terms products c =>
      rw [polynomial, positions, positionsAll, positions, List.nil_append, positionsAll_append,
        positionsAll_affineProducts, positionsAll_quadraticProducts, ← List.map_append]
      rfl

end

/-! ## Expressions with other constants -/

mutual

/-- The expression with its constants mapped. -/
def map (k : α → β) : Expr α → Expr β
  | constant c => constant (k c)
  | position p => position p
  | reference v => reference v
  | sum terms => sum (mapAll k terms)
  | product factors => product (mapAll k factors)
  | unary f a => unary f (map k a)
  | binary f a b => binary f (map k a) (map k b)
  | comparison r a b => comparison r (map k a) (map k b)
  | interval l e u => interval (k l) (map k e) (k u)
  | foreign object => foreign object

def mapAll (k : α → β) : List (Expr α) → List (Expr β)
  | [] => []
  | e :: rest => map k e :: mapAll k rest

end

theorem mapAll_eq_map (k : α → β) (es : List (Expr α)) : mapAll k es = es.map (map k) := by
  induction es with
  | nil => rfl
  | cons e es ih => rw [mapAll, List.map_cons, ih]

/-- The halves of the coefficients that are halved are mapped to halves. -/
def HalvesTo [Mul α] [OfScientific α] [Mul β] [OfScientific β] (k : α → β)
    (f : ScalarFunction α) : Prop :=
  ∀ t ∈ f.products, t.first = t.second → k (t.coefficient * 0.5) = k t.coefficient * 0.5

/-- Where halves are mapped to halves, a function with other coefficients has the same expression
with other constants. -/
theorem polynomial_map [Mul α] [OfScientific α] [Mul β] [OfScientific β] {k : α → β}
    {ps : Positions} {f : ScalarFunction α} (hvars : ∀ v ∈ f.vars, v ∈ ps.vars)
    (hk : HalvesTo k f) : polynomial ps.index (f.map k) = (polynomial ps.index f).map k := by
  cases f with
  | single v => rfl
  | affine terms c =>
      simp only [polynomial, ScalarFunction.map, map, mapAll, mapAll_eq_map, List.map_map]
      rfl
  | quadratic terms products c =>
      have hproduct : ∀ t ∈ products,
          quadraticProduct ps.index ⟨k t.coefficient, t.first, t.second⟩ =
            (quadraticProduct ps.index t).map k := by
        intro t ht
        have hfirst : t.first ∈ ps.vars :=
          hvars _ (List.mem_append_right _ (List.mem_flatMap.2 ⟨t, ht, by simp⟩))
        unfold quadraticProduct
        split
        · rename_i heq
          rw [← hk t ht ((Positions.index_inj hfirst).1 heq)]
          rfl
        · rfl
      simp only [polynomial, ScalarFunction.map, map, mapAll, mapAll_eq_map, List.map_map,
        List.map_append]
      congr 3
      exact List.map_congr_left hproduct

/-! ## Values in exact arithmetic -/

section

variable {x : List ℚ} {y z : ℚ} {e : Expr ℚ}

/-- An expression has a value at a vector in exact arithmetic. -/
def HasValue (x : List ℚ) (e : Expr ℚ) (y : ℚ) : Prop :=
  e.evaluateIn .rationals unresolved x = .ok y

theorem hasValue_constant (x : List ℚ) (c : ℚ) : HasValue x (constant c) c := rfl

theorem hasValue_position {p : Nat} (h : p < x.length) :
    HasValue x (position ((p + 1 : Nat) : Int)) (x.getD p 0) := by
  have hindex : ((p + 1 : Nat) : Int) - 1 = p := by omega
  have hread : Arithmetic.rationals.read x p = .ok (x.getD p 0) := by
    simp [Arithmetic.rationals, h]
  rw [HasValue, evaluateIn, compileIn, hindex]
  exact hread

/-- Parts with values are compiled, and evaluate to their values. -/
theorem exists_compileAllIn {es : List (Expr ℚ)} {ys : List ℚ}
    (h : List.Forall₂ (HasValue x) es ys) :
    ∃ gs, compileAllIn .rationals unresolved es = .ok gs ∧ gs.mapM (fun g => g x) = .ok ys := by
  induction h with
  | nil => exact ⟨[], rfl, rfl⟩
  | cons hvalue _ ih =>
      obtain ⟨g, hg, hy⟩ := bind_eq_ok.1 hvalue
      obtain ⟨gs, hgs, hys⟩ := ih
      refine ⟨g :: gs, ?_, ?_⟩
      · rw [compileAllIn, hg, hgs]
        rfl
      · rw [List.mapM_cons, hy, hys]
        rfl

theorem hasValue_sum {es : List (Expr ℚ)} {ys : List ℚ} (h : List.Forall₂ (HasValue x) es ys) :
    HasValue x (sum es) ys.sum := by
  obtain ⟨gs, hgs, hys⟩ := exists_compileAllIn h
  have hsum : Arithmetic.rationals.sum gs x = .ok ys.sum := by
    show (gs.mapM (fun g => g x) >>= fun ys => pure ys.sum) = _
    rw [hys]
    rfl
  rw [HasValue, evaluateIn, compileIn, hgs]
  exact hsum

theorem hasValue_product {es : List (Expr ℚ)} {ys : List ℚ}
    (h : List.Forall₂ (HasValue x) es ys) : HasValue x (product es) ys.prod := by
  obtain ⟨gs, hgs, hys⟩ := exists_compileAllIn h
  have hprod : Arithmetic.rationals.product gs x = .ok ys.prod := by
    show (gs.mapM (fun g => g x) >>= fun ys => pure ys.prod) = _
    rw [hys]
    rfl
  rw [HasValue, evaluateIn, compileIn, hgs]
  exact hprod

/-- The entry of a vector at the position of a variable. -/
def entry (ps : Positions) (x : List ℚ) (v : VariableId) : ℚ := x.getD (ps.vars.idxOf v) 0

variable {ps : Positions}

theorem hasValue_index (hx : ps.size ≤ x.length) {v : VariableId} (hv : v ∈ ps.vars) :
    HasValue x (position (ps.index v)) (entry ps x v) :=
  hasValue_position ((List.idxOf_lt_length_of_mem hv).trans_le hx)

theorem hasValue_affineProduct (hx : ps.size ≤ x.length) {t : AffineTerm ℚ} (hv : t.var ∈ ps.vars) :
    HasValue x (affineProduct ps.index t) (t.coefficient * entry ps x t.var) := by
  have h := hasValue_product (.cons (hasValue_constant x t.coefficient)
    (.cons (hasValue_index hx hv) .nil))
  rwa [List.prod_cons, List.prod_singleton] at h

/-- Two variables have one position only if they are the same. -/
theorem hasValue_quadraticProduct (hx : ps.size ≤ x.length) {t : QuadraticTerm ℚ}
    (hfirst : t.first ∈ ps.vars) (hsecond : t.second ∈ ps.vars) :
    HasValue x (quadraticProduct ps.index t)
      (if t.first = t.second then 1 / 2 * t.coefficient * entry ps x t.first ^ 2
        else t.coefficient * entry ps x t.first * entry ps x t.second) := by
  have h : HasValue x (quadraticProduct ps.index t) _ :=
    hasValue_product (.cons (hasValue_constant x _)
      (.cons (hasValue_index hx hfirst) (.cons (hasValue_index hx hsecond) .nil)))
  convert h using 1
  simp only [List.prod_cons, List.prod_nil, mul_one, Positions.index_inj hfirst]
  split
  · rename_i heq
    rw [← heq]
    ring
  · ring

/-- The expression of a function has the value of the function. -/
theorem hasValue_polynomial (hx : ps.size ≤ x.length) {f : ScalarFunction ℚ}
    (hvars : ∀ v ∈ f.vars, v ∈ ps.vars) :
    HasValue x (polynomial ps.index f) (f.value (entry ps x)) := by
  have haffine : ∀ {terms : List (AffineTerm ℚ)}, (∀ v ∈ terms.map (·.var), v ∈ ps.vars) →
      List.Forall₂ (HasValue x) (terms.map (affineProduct ps.index))
        (terms.map fun t => t.coefficient * entry ps x t.var) := fun hterms =>
    List.forall₂_map_left_iff.2 (List.forall₂_map_right_iff.2 (List.forall₂_same.2 fun t ht =>
      hasValue_affineProduct hx (hterms _ (List.mem_map_of_mem ht))))
  cases f with
  | single v => exact hasValue_index hx (hvars v (List.mem_singleton_self v))
  | affine terms c =>
      have h := hasValue_sum (.cons (hasValue_constant x c) (haffine hvars))
      rwa [List.sum_cons] at h
  | quadratic terms products c =>
      have hproducts : ∀ t ∈ products, t.first ∈ ps.vars ∧ t.second ∈ ps.vars := fun t ht =>
        ⟨hvars _ (List.mem_append_right _ (List.mem_flatMap.2 ⟨t, ht, by simp⟩)),
          hvars _ (List.mem_append_right _ (List.mem_flatMap.2 ⟨t, ht, by simp⟩))⟩
      have hquadratic := List.forall₂_map_left_iff.2 (List.forall₂_map_right_iff.2
        (List.forall₂_same.2 fun t ht =>
          hasValue_quadraticProduct hx (hproducts t ht).1 (hproducts t ht).2))
      have h := hasValue_sum (.cons (hasValue_constant x c)
        (List.rel_append (haffine fun v hv => hvars v (List.mem_append_left _ hv)) hquadratic))
      rwa [List.sum_cons, List.sum_append, ← add_assoc] at h

end

/-! ## Compilation -/

theorem exists_compileAll {es : List Expr} (h : ∀ e ∈ es, ∃ g, e.compile = .ok g) :
    ∃ gs, compileAll es = .ok gs := by
  rw [compileAll_eq_mapM]
  exact exists_mapM_eq_ok h

theorem exists_compile_sum {es : List Expr} (h : ∀ e ∈ es, ∃ g, e.compile = .ok g) :
    ∃ g, (sum es).compile = .ok g := by
  obtain ⟨gs, hgs⟩ := exists_compileAll h
  refine ⟨sumAt gs, ?_⟩
  rw [compile, hgs]
  rfl

/-- Wherever the variables of a function stand, its expression can be compiled. -/
theorem exists_compile_polynomial (index : VariableId → Nat) (f : ScalarFunction) :
    ∃ g, (polynomial index f).compile = .ok g := by
  -- the factors of a product are constants and positions
  cases f with
  | single v => exact ⟨_, rfl⟩
  | affine terms c =>
      refine exists_compile_sum fun e he => ?_
      rcases List.mem_cons.1 he with rfl | he
      · exact ⟨_, rfl⟩
      · obtain ⟨t, -, rfl⟩ := List.mem_map.1 he
        exact ⟨_, rfl⟩
  | quadratic terms products c =>
      refine exists_compile_sum fun e he => ?_
      rcases List.mem_cons.1 he with rfl | he
      · exact ⟨_, rfl⟩
      · rcases List.mem_append.1 he with he | he
        · obtain ⟨t, -, rfl⟩ := List.mem_map.1 he
          exact ⟨_, rfl⟩
        · obtain ⟨t, -, rfl⟩ := List.mem_map.1 he
          exact ⟨_, rfl⟩

/-! ## The expression of a function -/

/--
A function has an expression if and only if all its variables have positions; if not, one of those
without a position is named. The positions in the expression are those of the variables of the
function, in their order. In exact arithmetic the expression has, at every vector with an entry for
each variable, the value of the function. It is the expression of floats with the exact values of
its constants, if the coefficients that are halved have halves that are floats.
-/
theorem ofFunction_denotes (f : ScalarFunction) (ps : Positions) :
    ((∃ e, ofFunction ps.position f = .ok e) ↔ ∀ v ∈ f.vars, v ∈ ps.vars) ∧
    (∀ fault, ofFunction ps.position f = .error fault →
      ∃ v ∈ f.vars, v ∉ ps.vars ∧ fault = .unknownVariable v) ∧
    ∀ e, ofFunction ps.position f = .ok e →
      (∀ v ∈ f.vars, ps.position v = .ok (ps.index v)) ∧
      e.positions = f.vars.map (fun v => (ps.index v : Int)) ∧
      ∃ q, ofFunction ps.position f.exact = .ok q ∧ q.positions = e.positions ∧
        (HalvesTo Number.exact f → q = e.map Number.exact) ∧
        ∀ x : List ℚ, ps.size ≤ x.length →
          q.evaluateIn .rationals unresolved x = .ok (f.exact.value (entry ps x)) := by
  have hok : ∀ e, ofFunction ps.position f = .ok e ↔
      (∀ v ∈ f.vars, v ∈ ps.vars) ∧ e = polynomial ps.index f := fun e => by
    simp only [ofFunction_eq, Positions.unlessMissing_eq_ok, ScalarFunction.mem_lookedUp]
  refine ⟨?_, ?_, ?_⟩
  · simp only [hok, exists_and_left, exists_eq, and_true]
  · intro fault h
    obtain ⟨v, hv, hposition⟩ := exists_of_ofFunction_error h
    exact ⟨v, hv, Positions.position_eq_error hposition⟩
  · intro e h
    obtain ⟨hvars, rfl⟩ := (hok e).1 h
    have hexact : ∀ v ∈ f.exact.vars, v ∈ ps.vars := by
      rwa [ScalarFunction.exact, ScalarFunction.vars_map]
    refine ⟨fun v hv => Positions.position_of_mem (hvars v hv), positions_polynomial _ f,
      polynomial ps.index f.exact, ?_, ?_, polynomial_map hvars,
      fun x hx => hasValue_polynomial hx hexact⟩
    · rw [ofFunction_eq, Positions.unlessMissing_eq_ok]
      exact ⟨fun v hv => hexact v (ScalarFunction.mem_lookedUp.1 hv), rfl⟩
    · rw [positions_polynomial, positions_polynomial, ScalarFunction.exact,
        ScalarFunction.vars_map]

/-- The function `2 + 2·v₁ + v₂² + 2·v₁·v₂` at `v₁ = 7` and `v₂ = 5`. -/
theorem ofFunction_denotes_quadratic :
    let ps : Positions := ⟨[⟨2⟩, ⟨1⟩], by decide⟩
    let f : ScalarFunction := .quadratic [⟨2, ⟨1⟩⟩] [⟨2, ⟨2⟩, ⟨2⟩⟩, ⟨2, ⟨1⟩, ⟨2⟩⟩] 2
    ∃ e q, ofFunction ps.position f = .ok e ∧ e.positions = [2, 1, 1, 2, 1] ∧
      ofFunction ps.position f.exact = .ok q ∧
      q.evaluateIn .rationals unresolved [5, 7] = .ok 111 := by
  intro ps f
  obtain ⟨e, he⟩ := (ofFunction_denotes f ps).1.2 (by decide)
  obtain ⟨-, hpositions, q, hq, -, -, hvalue⟩ := (ofFunction_denotes f ps).2.2 e he
  have htwo : (2 : Float).toModel.unpack = .finite .positive (2 ^ 52) (-51) (by decide) := rfl
  have hexact : Number.exact 2 = 2 := by
    rw [Number.exact, htwo]
    norm_num [Number.exactOf, Float.Model.UnpackedFloat.Sign.apply]
  have hfunction : f.exact.value (entry ps [5, 7]) = 111 := by
    norm_num [f, ps, ScalarFunction.exact, ScalarFunction.map, ScalarFunction.value, hexact, entry]
  exact ⟨e, q, he, hpositions, hq, hfunction ▸ hvalue [5, 7] le_rfl⟩

end Expr

end Extremum
