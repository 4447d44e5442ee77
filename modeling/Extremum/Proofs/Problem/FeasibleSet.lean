import Extremum.Expr.Evaluation
import Extremum.Proofs.Evaluator.Answers
import Extremum.Proofs.Problem.Assembly

/-!
# Problems have the feasible points of their models

A vector satisfies the constraints of a model if and only if it lies within the bounds of the
problem assembled from the model. Constraints on just one variable are found again in the bounds of
variables; affine and quadratic ones in the bounds and the compiled expressions of constraints.
-/

namespace Extremum

/-! ## Points of models and problems -/

namespace Model

/-- The value of a function at a vector with one entry for each variable. -/
def functionValue (m : Model) (f : ScalarFunction) (x : List Float) : Except Fault Float := do
  let ps ← Positions.ofList m.vars
  let e ← Expr.ofFunction ps.position f
  e.evaluate x

/-- The constraints on single variables and the algebraic ones hold at a vector. -/
structure SatisfiedAt (m : Model) (x : List Float) : Prop where
  single : ∀ c ∈ m.constraints, ∀ v, c.function = .single v →
    c.region.kind ∈ Kind.scalarRegions → ∃ y, x[m.vars.idxOf v]? = some y ∧ c.region.Admits y
  algebraic : ∀ c ∈ m.constraints, c.IsAlgebraic →
    ∃ y, m.functionValue c.function x = .ok y ∧ c.region.Admits y

end Model

namespace Problem

/-- The value of a constraint at a vector lies within its bounds. Constraints count from one. -/
def ConstraintHoldsAt (p : Problem) (s : EvaluatorState) (x : List Float) (j : Nat) : Prop :=
  ∃ e s' f y lower upper, p.evaluator.constraintExpression j s = .ok e s' ∧
    e.compile = .ok f ∧ f x = .ok y ∧ p.constraintLower.entries[j - 1]? = some lower ∧
    p.constraintUpper.entries[j - 1]? = some upper ∧ Within (lower, upper) y

/--
A vector lies within the bounds of variables, and so do the values of the algebraic constraints,
which come after those of the nonlinear block.
-/
structure AdmitsAt (p : Problem) (s : EvaluatorState) (x : List Float) : Prop where
  bounds : ∀ i < p.variableCount, ∃ lower upper y, p.variableLower.entries[i]? = some lower ∧
    p.variableUpper.entries[i]? = some upper ∧ x[i]? = some y ∧ Within (lower, upper) y
  values : ∀ j, p.evaluator.innerCount < j → j ≤ p.constraintCount → p.ConstraintHoldsAt s x j

end Problem

/-! ## Rows -/

theorem Expr.compile_inRegion {e e' : Expr} {r : Region} (h : e.inRegion r = .ok e') :
    e'.compile = e.compile := by
  cases r with
  | lessThan _ | greaterThan _ | equalTo _ _ | interval _ _ _ =>
      cases h
      simp only [compile]
  | zeroOne | integer => cases h

def Row.AdmitsAt (row : Row) (x : List Float) : Prop :=
  ∃ f y, row.expression.compile = .ok f ∧ f x = .ok y ∧ Within (row.lower, row.upper) y

namespace Model

variable {m : Model} {ps : Positions} {rows : List Row} {objective : Option Expr} {x : List Float}

/-- A row says what the constraint says that it is made of. -/
theorem admitsAt_row {c : Constraint} {row : Row} (hps : Positions.ofList m.vars = .ok ps)
    (hrow : Row.ofConstraint ps.position c = .ok row) :
    row.AdmitsAt x ↔ ∃ y, m.functionValue c.function x = .ok y ∧ c.region.Admits y := by
  obtain ⟨e', he', hrow⟩ := bind_eq_ok.1 hrow
  obtain ⟨e, he, hin⟩ := bind_eq_ok.1 he'
  obtain ⟨range, hrange, hrow⟩ := bind_eq_ok.1 hrow
  cases pure_eq_ok.1 hrow
  have hvalue : ∀ y, m.functionValue c.function x = .ok y ↔
      ∃ f, e'.compile = .ok f ∧ f x = .ok y := by
    intro y
    unfold functionValue Expr.evaluate
    simp only [bind_eq_ok, hps, he, Except.ok.injEq, exists_eq_left',
      Expr.compile_inRegion hin]
  simp only [Row.AdmitsAt, hvalue, ← Region.within_bounds hrange]
  constructor
  · rintro ⟨f, y, hf, hy, hw⟩
    exact ⟨y, ⟨f, hf, hy⟩, hw⟩
  · rintro ⟨y, ⟨f, hf, hy⟩, hw⟩
    exact ⟨f, y, hf, hy, hw⟩

theorem WellFormed.rows_admitAt_iff (h : m.WellFormed) (hps : Positions.ofList m.vars = .ok ps)
    (hrows : m.rows ps.position = .ok rows) :
    (∀ row ∈ rows, row.AdmitsAt x) ↔ ∀ c ∈ m.constraints, c.IsAlgebraic →
      ∃ y, m.functionValue c.function x = .ok y ∧ c.region.Admits y := by
  constructor
  · intro hall c hc ha
    obtain ⟨row, hr, hrow⟩ := exists_result_of_mem hrows (h.mem_algebraicConstraints.2 ⟨hc, ha⟩)
    exact (admitsAt_row hps hrow).1 (hall row hr)
  · intro hholds row hr
    obtain ⟨c, hc, hrow⟩ := exists_source_of_mem hrows hr
    obtain ⟨hc, ha⟩ := h.mem_algebraicConstraints.1 hc
    exact (admitsAt_row hps hrow).2 (hholds c hc ha)

end Model

/-! ## Positions of bounds and constraints -/

/-- The algebraic constraints come right after the nonlinear ones. -/
theorem UnifiedEvaluator.constraintExpression_algebraic {u : UnifiedEvaluator} {k : Nat} {e : Expr}
    (s : EvaluatorState) (he : u.constraints[k]? = some e) :
    u.constraintExpression (u.innerCount + k + 1 : Nat) s = .ok e s := by
  have hindex : (((u.innerCount + k + 1 : Nat) : Int) - u.innerCount - 1).toNat = k := by omega
  rw [constraintExpression_beyond, algebraicConstraint, hindex, he]
  rfl

namespace Model

variable {m : Model} {ps : Positions} {rows : List Row} {objective : Option Expr} {x : List Float}
  {s : EvaluatorState}

theorem innerCount_problemWith (m : Model) (ps : Positions) (rows : List Row)
    (objective : Option Expr) :
    (m.problemWith ps rows objective).evaluator.innerCount = m.nonlinearBounds.length := by
  cases h : m.block <;>
    simp [problemWith, problemEvaluator, UnifiedEvaluator.innerCount, nonlinearBounds, h]

theorem constraintExpression_row {k : Nat} {row : Row} (hrow : rows[k]? = some row) :
    (m.problemWith ps rows objective).evaluator.constraintExpression
      (m.nonlinearBounds.length + k + 1 : Nat) s = .ok row.expression s := by
  rw [← innerCount_problemWith m ps rows objective]
  refine UnifiedEvaluator.constraintExpression_algebraic s ?_
  simp [problemWith, problemEvaluator, hrow]

theorem constraintLower_row {k : Nat} {row : Row} (hrow : rows[k]? = some row) :
    (m.problemWith ps rows objective).constraintLower.entries[m.nonlinearBounds.length + k]? =
      some row.lower := by
  simp [problemWith, Grid.ofList, List.getElem?_append, hrow]

theorem constraintUpper_row {k : Nat} {row : Row} (hrow : rows[k]? = some row) :
    (m.problemWith ps rows objective).constraintUpper.entries[m.nonlinearBounds.length + k]? =
      some row.upper := by
  simp [problemWith, Grid.ofList, List.getElem?_append, hrow]

theorem constraintHoldsAt_row {k : Nat} {row : Row} (hrow : rows[k]? = some row) :
    (m.problemWith ps rows objective).ConstraintHoldsAt s x (m.nonlinearBounds.length + k + 1) ↔
      row.AdmitsAt x := by
  unfold Problem.ConstraintHoldsAt
  rw [constraintExpression_row hrow, Nat.add_sub_cancel, constraintLower_row hrow,
    constraintUpper_row hrow]
  constructor
  · rintro ⟨e, s', f, y, lower, upper, he, hf, hy, hl, hu, hw⟩
    cases he
    cases hl
    cases hu
    exact ⟨f, y, hf, hy, hw⟩
  · rintro ⟨f, y, hf, hy, hw⟩
    exact ⟨_, s, f, y, _, _, rfl, hf, hy, rfl, rfl, hw⟩

theorem values_iff_rows (m : Model) (ps : Positions) (rows : List Row) (objective : Option Expr)
    (x : List Float) (s : EvaluatorState) :
    (∀ j, (m.problemWith ps rows objective).evaluator.innerCount < j →
      j ≤ (m.problemWith ps rows objective).constraintCount →
      (m.problemWith ps rows objective).ConstraintHoldsAt s x j) ↔
      ∀ row ∈ rows, row.AdmitsAt x := by
  have hcount : (m.problemWith ps rows objective).constraintCount =
      m.nonlinearBounds.length + rows.length := rfl
  rw [innerCount_problemWith, hcount]
  constructor
  · intro hvalues row hmem
    obtain ⟨k, hk⟩ := List.mem_iff_getElem?.1 hmem
    obtain ⟨hlt, -⟩ := List.getElem?_eq_some_iff.1 hk
    exact (constraintHoldsAt_row hk).1 (hvalues _ (by omega) (by omega))
  · intro hrows j hj hle
    obtain ⟨k, rfl⟩ : ∃ k, j = m.nonlinearBounds.length + k + 1 :=
      ⟨j - m.nonlinearBounds.length - 1, by omega⟩
    have hk : k < rows.length := by omega
    exact (constraintHoldsAt_row (List.getElem?_eq_getElem hk)).2
      (hrows _ (List.getElem_mem hk))

theorem WellFormed.bounds_iff_single (h : m.WellFormed) (ps : Positions) (rows : List Row)
    (objective : Option Expr) (hlen : x.length = m.vars.length) (hx : ∀ y ∈ x, y.isNaN = false) :
    (∀ i < (m.problemWith ps rows objective).variableCount, ∃ lower upper y,
      (m.problemWith ps rows objective).variableLower.entries[i]? = some lower ∧
      (m.problemWith ps rows objective).variableUpper.entries[i]? = some upper ∧
      x[i]? = some y ∧ Within (lower, upper) y) ↔
      ∀ c ∈ m.constraints, ∀ v, c.function = .single v → c.region.kind ∈ Kind.scalarRegions →
        ∃ y, x[m.vars.idxOf v]? = some y ∧ c.region.Admits y := by
  have hlower : ∀ i : Nat, (m.problemWith ps rows objective).variableLower.entries[i]? =
      m.vars[i]?.map fun v => (m.variableRange v).1 := by
    simp [problemWith, Grid.ofList]
  have hupper : ∀ i : Nat, (m.problemWith ps rows objective).variableUpper.entries[i]? =
      m.vars[i]?.map fun v => (m.variableRange v).2 := by
    simp [problemWith, Grid.ofList]
  have hcount : (m.problemWith ps rows objective).variableCount = m.vars.length := rfl
  simp only [hcount, hlower, hupper]
  constructor
  · intro hbounds c hc v hf hk
    have hv : v ∈ m.vars := h.constraint_vars c hc v (by rw [hf]; exact List.mem_singleton_self v)
    have hentry : m.vars[m.vars.idxOf v]? = some v := List.getElem?_idxOf hv
    obtain ⟨lower, upper, y, hl, hu, hy, hw⟩ := hbounds _ (List.idxOf_lt_length_of_mem hv)
    rw [hentry] at hl hu
    cases hl
    cases hu
    have hnan := hx y (List.mem_of_getElem? hy)
    exact ⟨y, hy, (h.within_variableRange hnan).1 hw c hc hf hk⟩
  · intro hsingle i hi
    have hi' : i < x.length := by omega
    have hy : x[i]? = some x[i] := List.getElem?_eq_getElem hi'
    refine ⟨_, _, x[i], by rw [List.getElem?_eq_getElem hi]; rfl,
      by rw [List.getElem?_eq_getElem hi]; rfl, hy, ?_⟩
    refine (h.within_variableRange (hx _ (List.getElem_mem hi'))).2 fun c hc hf hk => ?_
    obtain ⟨y, hy', hadmits⟩ := hsingle c hc _ hf hk
    rw [h.nodup.idxOf_getElem i hi, hy] at hy'
    cases hy'
    exact hadmits

/-! ## Feasible points -/

/--
The problem of every model that edits lead to has the feasible points of the model. A constraint
whose value cannot be computed at a vector counts as violated on both sides.
-/
theorem Reachable.feasible_iff (h : m.Reachable) (hlen : x.length = m.vars.length)
    (hx : ∀ y ∈ x, y.isNaN = false) :
    ∃ p, m.problem = .ok p ∧ ∀ s, m.SatisfiedAt x ↔ p.AdmitsAt s x := by
  have hw := h.wellFormed
  obtain ⟨ps, rows, objective, hps, hrows, hp⟩ := hw.exists_problem
  refine ⟨_, hp, fun s => ?_⟩
  have hpositions : Positions.ofList m.vars = .ok ps := Positions.ofList_eq_ok.2 ⟨hw.nodup, hps⟩
  have hbounds := hw.bounds_iff_single ps rows objective hlen hx
  have hvalues := (values_iff_rows m ps rows objective x s).trans
    (hw.rows_admitAt_iff hpositions hrows)
  constructor
  · rintro ⟨hsingle, halgebraic⟩
    exact ⟨hbounds.2 hsingle, hvalues.2 halgebraic⟩
  · rintro ⟨hb, hv⟩
    exact ⟨hbounds.1 hb, hvalues.1 hv⟩

/-- With `x₁ ≤ 4` and `x₁ + 2 x₂ ≥ 3`, the point `(1, 2)` is feasible. -/
theorem feasible_iff_two_constraints :
    let m := empty.performAll [.addVariables 2,
      .addConstraint (.function (.single ⟨1⟩)) (.lessThan ⟨4, rfl⟩),
      .addConstraint (.function (.affine [⟨1, ⟨1⟩⟩, ⟨2, ⟨2⟩⟩] 0)) (.greaterThan ⟨3, rfl⟩)]
    m.SatisfiedAt [1, 2] ∧ ∃ p, m.problem = .ok p ∧ ∀ s, p.AdmitsAt s [1, 2] := by
  intro m
  have hvalue : ∃ y, m.functionValue (.affine [⟨1, ⟨1⟩⟩, ⟨2, ⟨2⟩⟩] 0) [1, 2] = .ok y ∧ 3 ≤ y := by
    have hany : (m.functionValue (.affine [⟨1, ⟨1⟩⟩, ⟨2, ⟨2⟩⟩] 0) [1, 2]).toOption.any
        (3 ≤ ·) = true := by decide +kernel
    cases hy : m.functionValue (.affine [⟨1, ⟨1⟩⟩, ⟨2, ⟨2⟩⟩] 0) [1, 2] with
    | error fault =>
        rw [hy] at hany
        cases hany
    | ok y =>
        rw [hy] at hany
        exact ⟨y, rfl, of_decide_eq_true hany⟩
  have hsatisfied : m.SatisfiedAt [1, 2] := by
    constructor
    · intro c hc v hf hk
      rcases List.mem_pair.1 hc with rfl | rfl
      · cases hf
        exact ⟨1, rfl, (by decide : (1 : Float) ≤ 4)⟩
      · cases hf
    · intro c hc ha
      rcases List.mem_pair.1 hc with rfl | rfl
      · exact absurd ha (by decide)
      · exact hvalue
  have h : m.Reachable := Reachable.empty.performAll _
  have hlen : [(1 : Float), 2].length = m.vars.length := rfl
  have hnumbers : ∀ y ∈ [(1 : Float), 2], y.isNaN = false := by decide +kernel
  obtain ⟨p, hp, hiff⟩ := h.feasible_iff hlen hnumbers
  exact ⟨hsatisfied, p, hp, fun s => (hiff s).1 hsatisfied⟩

end Model

end Extremum
