import Extremum.Problem.Assembly
import Extremum.Proofs.Problem.Categories
import Extremum.Proofs.Problem.Checking
import Extremum.Proofs.Problem.Rows

/-!
# Assembly never fails

Assembling a problem looks up the variables of all functions, asks regions for their bounds, and
hands arrays to a check of their sizes. For every model that edits lead to, whatever its nonlinear
block, each of these steps succeeds, and the arrays have the lengths that the model prescribes.
-/

namespace Extremum

namespace Model

variable {m : Model} {p : Problem}

/-- The problem with the given parts of a model, which has the positions of its variables. -/
def problemWith (m : Model) (ps : Positions) (rows : List Row) (objective : Option Expr) :
    Problem where
  variableCount := m.vars.length
  constraintCount := m.nonlinearBounds.length + rows.length
  variableLower := .ofList (m.vars.map fun v => (m.variableRange v).1)
  variableUpper := .ofList (m.vars.map fun v => (m.variableRange v).2)
  constraintLower := .ofList (m.nonlinearBounds.map (·.1) ++ rows.map (·.lower))
  constraintUpper := .ofList (m.nonlinearBounds.map (·.2) ++ rows.map (·.upper))
  direction := m.direction
  categories := .ofList (m.vars.map m.variableCategory)
  warmStart := .ofList (m.vars.map fun v => (m.startOf? v).getD 0)
  evaluator := m.problemEvaluator ps rows objective
  variableLower_size := by simp [Grid.size, Grid.ofList]
  variableUpper_size := by simp [Grid.size, Grid.ofList]
  constraintLower_size := by simp [Grid.size, Grid.ofList]
  constraintUpper_size := by simp [Grid.size, Grid.ofList]
  categories_size := by simp [Grid.size, Grid.ofList]
  warmStart_size := by simp [Grid.size, Grid.ofList]
  evaluator_count := by
    cases h : m.block <;>
      simp [UnifiedEvaluator.constraintCount, UnifiedEvaluator.innerCount, problemEvaluator,
        nonlinearBounds, h]

variable {ps : Positions} {rows : List Row} {objective : Option Expr}

theorem assembly_eq_ok {replaced : List (VariableId × Category)} :
    m.assembly = .ok (p, replaced) ↔ ∃ ps ranges given rows objective,
      Positions.ofList m.vars = .ok ps ∧ m.variableRanges ps = .ok ranges ∧
        m.givenCategories ps = .ok given ∧ m.rows ps.position = .ok rows ∧
          m.objectiveExpression ps.position = .ok objective ∧
            Problem.ofFields (m.problemFields ps ranges given.categories rows)
              (m.problemEvaluator ps rows objective) = .ok p ∧ given.replaced = replaced := by
  simp only [assembly, bind_eq_ok, pure_eq_ok, exists_and_left, Prod.mk.injEq]
  constructor
  · rintro ⟨ps, hps, ranges, hranges, given, hgiven, rows, hrows, objective, ho, _, hp, rfl, rfl⟩
    exact ⟨ps, hps, ranges, hranges, given, hgiven, rows, hrows, objective, ho, hp, rfl⟩
  · rintro ⟨ps, hps, ranges, hranges, given, hgiven, rows, hrows, objective, ho, hp, rfl⟩
    exact ⟨ps, hps, ranges, hranges, given, hgiven, rows, hrows, objective, ho, p, hp, rfl, rfl⟩

theorem problem_eq_ok : m.problem = .ok p ↔ ∃ replaced, m.assembly = .ok (p, replaced) := by
  rw [problem, map_eq_ok]
  exact ⟨fun ⟨⟨_, replaced⟩, h, rfl⟩ => ⟨replaced, h⟩, fun ⟨replaced, h⟩ => ⟨_, h, rfl⟩⟩

/-- A problem has the evaluator that goes with the model. -/
theorem evaluator_of_problem (hp : m.problem = .ok p) : ∃ ps rows objective,
    Positions.ofList m.vars = .ok ps ∧ m.rows ps.position = .ok rows ∧
      m.objectiveExpression ps.position = .ok objective ∧
        p.evaluator = m.problemEvaluator ps rows objective ∧ p.variableCount = m.vars.length := by
  obtain ⟨replaced, hassembly⟩ := problem_eq_ok.1 hp
  obtain ⟨ps, ranges, given, rows, objective, hps, -, -, hrows, ho, hfields, -⟩ :=
    assembly_eq_ok.1 hassembly
  obtain ⟨hf, hu⟩ := Problem.ofFields_eq_ok.1 hfields
  have hcount : p.variableCount = ps.size := congrArg Problem.Fields.variableCount hf.symm
  rw [Positions.size, (Positions.ofList_eq_ok.1 hps).2] at hcount
  exact ⟨ps, rows, objective, hps, hrows, ho, hu.symm, hcount⟩

theorem fields_problemWith (m : Model) (ps : Positions) (rows : List Row)
    (objective : Option Expr) : (m.problemWith ps rows objective).fields = {
      variableCount := m.vars.length
      constraintCount := m.nonlinearBounds.length + rows.length
      variableLower := .ofList (m.vars.map fun v => (m.variableRange v).1)
      variableUpper := .ofList (m.vars.map fun v => (m.variableRange v).2)
      constraintLower := .ofList (m.nonlinearBounds.map (·.1) ++ rows.map (·.lower))
      constraintUpper := .ofList (m.nonlinearBounds.map (·.2) ++ rows.map (·.upper))
      direction := m.direction
      categories := .ofList ((m.vars.map m.variableCategory).map Category.code)
      warmStart := .ofList (m.vars.map fun v => (m.startOf? v).getD 0) } := by
  simp [Problem.fields, problemWith, Grid.ofList]

theorem ofFields_problemFields (hvars : ps.vars = m.vars) :
    Problem.ofFields (m.problemFields ps (m.vars.map m.variableRange)
      (m.vars.map m.variableCategory) rows) (m.problemEvaluator ps rows objective) =
        .ok (m.problemWith ps rows objective) := by
  have hfields : m.problemFields ps (m.vars.map m.variableRange)
      (m.vars.map m.variableCategory) rows = (m.problemWith ps rows objective).fields := by
    rw [fields_problemWith]
    simp [problemFields, warmStart, Positions.size, hvars, Function.comp_def]
  rw [hfields]
  exact Problem.ofFields_fields _

/-- The problem of a model is the one with its parts. -/
theorem WellFormed.problem_eq_ok (h : m.WellFormed) : m.problem = .ok p ↔ ∃ ps rows objective,
    Positions.ofList m.vars = .ok ps ∧ m.rows ps.position = .ok rows ∧
      m.objectiveExpression ps.position = .ok objective ∧ m.problemWith ps rows objective = p := by
  rw [Model.problem_eq_ok]
  constructor
  · rintro ⟨replaced, hassembly⟩
    obtain ⟨ps, ranges, given, rows, objective, hps, hranges, hgiven, hrows, ho, hfields, -⟩ :=
      assembly_eq_ok.1 hassembly
    have hvars := (Positions.ofList_eq_ok.1 hps).2
    obtain ⟨given', hgiven', hcategories⟩ := h.givenCategories_eq hvars
    cases hranges.symm.trans (h.variableRanges_eq hvars)
    cases hgiven.symm.trans hgiven'
    rw [hcategories, ofFields_problemFields hvars] at hfields
    exact ⟨ps, rows, objective, hps, hrows, ho, Except.ok.inj hfields⟩
  · rintro ⟨ps, rows, objective, hps, hrows, ho, rfl⟩
    have hvars := (Positions.ofList_eq_ok.1 hps).2
    obtain ⟨given, hgiven, hcategories⟩ := h.givenCategories_eq hvars
    refine ⟨given.replaced, assembly_eq_ok.2 ⟨ps, _, given, rows, objective, hps,
      h.variableRanges_eq hvars, hgiven, hrows, ho, ?_, rfl⟩⟩
    rw [hcategories]
    exact ofFields_problemFields hvars

theorem WellFormed.exists_problem (h : m.WellFormed) : ∃ ps rows objective,
    ps.vars = m.vars ∧ m.rows ps.position = .ok rows ∧
      m.problem = .ok (m.problemWith ps rows objective) := by
  obtain ⟨ps, hvars⟩ : ∃ ps : Positions, ps.vars = m.vars := ⟨⟨m.vars, h.nodup⟩, rfl⟩
  have hps : Positions.ofList m.vars = .ok ps := Positions.ofList_eq_ok.2 ⟨h.nodup, hvars⟩
  obtain ⟨rows, hrows⟩ := h.exists_rows hvars
  obtain ⟨objective, ho⟩ := h.exists_objectiveExpression hvars
  exact ⟨ps, rows, objective, hvars, hrows, h.problem_eq_ok.2 ⟨ps, _, _, hps, hrows, ho, rfl⟩⟩

theorem WellFormed.problem_ok (h : m.WellFormed) : ∃ p, m.problem = .ok p := by
  obtain ⟨ps, rows, objective, -, -, hp⟩ := h.exists_problem
  exact ⟨_, hp⟩

theorem WellFormed.length_rows (h : m.WellFormed) {place : VariableId → Except Fault Nat}
    {rows : List Row} (hrows : m.rows place = .ok rows) :
    rows.length = m.constraints.countP (·.IsAlgebraic) := by
  rw [← h.length_algebraicConstraints]
  exact (mapM_eq_ok.1 hrows).length_eq.symm

theorem problemWith_hasLengths (m : Model) (ps : Positions) (rows : List Row)
    (objective : Option Expr) : (m.problemWith ps rows objective).HasLengths m.vars.length
      (m.nonlinearBounds.length + rows.length) where
  variableCount := rfl
  constraintCount := rfl
  variableLower := by simp [problemWith, Grid.ofList]
  variableUpper := by simp [problemWith, Grid.ofList]
  constraintLower := by simp [problemWith, Grid.ofList]
  constraintUpper := by simp [problemWith, Grid.ofList]
  categories := by simp [problemWith, Grid.ofList]
  warmStart := by simp [problemWith, Grid.ofList]

/--
In every model that edits lead to, references are to variables of the model. With any nonlinear
block it has a problem, which passes all checks, and all arrays of which have the lengths expected.
-/
theorem Reachable.problem_total (h : m.Reachable) :
    (∀ c ∈ m.constraints, ∀ v ∈ c.function.vars, v ∈ m.vars) ∧
      (∀ v ∈ m.objective.vars, v ∈ m.vars) ∧
      (∀ s ∈ m.starts, s.1 ∈ m.vars) ∧
      ∀ block, ∃ p, (m.setBlock block).problem = .ok p ∧
        p.HasLengths m.vars.length
          ((m.setBlock block).nonlinearBounds.length + m.constraints.countP (·.IsAlgebraic)) ∧
        Problem.ofFields p.fields p.evaluator = .ok p := by
  have hw := h.wellFormed
  refine ⟨hw.constraint_vars, hw.objective_vars, hw.start_vars, fun block => ?_⟩
  have hb : (m.setBlock block).WellFormed := hw.perform (.setBlock block)
  obtain ⟨ps, rows, objective, -, hrows, hp⟩ := hb.exists_problem
  refine ⟨_, hp, ?_, Problem.ofFields_fields _⟩
  have hlengths := problemWith_hasLengths (m.setBlock block) ps rows objective
  rw [hb.length_rows hrows] at hlengths
  exact hlengths

/-- One of two variables is deleted from a constraint; deleting it again fails. -/
theorem problem_total_after_deletion :
    let m := empty.performAll [.addVariables 2,
      .addConstraint (.function (.affine [⟨1, ⟨1⟩⟩, ⟨2, ⟨2⟩⟩] 0)) (.lessThan ⟨3, rfl⟩),
      .deleteVariable ⟨1⟩, .deleteVariable ⟨1⟩]
    m.vars = [⟨2⟩] ∧ ∃ p, (m.setBlock none).problem = .ok p ∧ p.HasLengths 1 1 := by
  intro m
  have h : m.Reachable := Reachable.empty.performAll _
  obtain ⟨p, hp, hlengths, -⟩ := h.problem_total.2.2.2 none
  exact ⟨rfl, p, hp, hlengths⟩

end Model

end Extremum
