import Extremum.Problem.Bounds
import Extremum.Problem.Categories
import Extremum.Problem.Checking
import Extremum.Problem.Rows

/-!
# Assembling problems from models

Variables get positions in the order of the model. The constraints of the nonlinear block come
before the rows of the algebraic constraints, in expressions and in bounds alike. What comes out is
checked like any other problem.
-/

namespace Extremum

namespace Model

/-- The pairs of bounds of the nonlinear constraints. -/
def nonlinearBounds (m : Model) : List (Float × Float) :=
  match m.block with
  | some block => block.bounds
  | none => []

/-- The algebraic objective, unless the model has none or it is trivial. -/
def objectiveExpression (m : Model) (place : VariableId → Except Fault Nat) :
    Except Fault (Option Expr) :=
  if m.sense = .feasibility then .ok none
  else do
    let e ← Expr.ofFunction place m.objective
    return if e.isTrivial then none else some e

/-- The direction in which the objective is improved; without one, any point is minimal. -/
def direction (m : Model) : Direction :=
  if m.sense = .maximize then .maximize else .minimize

/-- The start values of all variables, by position; zero where none was set. -/
def warmStart (m : Model) (ps : Positions) : List Float :=
  ps.vars.map fun v => (m.startOf? v).getD 0

/-- The fields of the problem with the given parts of a model. -/
def problemFields (m : Model) (ps : Positions) (ranges : List (Float × Float))
    (categories : List Category) (rows : List Row) : Problem.Fields where
  variableCount := ps.size
  constraintCount := m.nonlinearBounds.length + rows.length
  variableLower := .ofList (ranges.map (·.1))
  variableUpper := .ofList (ranges.map (·.2))
  constraintLower := .ofList (m.nonlinearBounds.map (·.1) ++ rows.map (·.lower))
  constraintUpper := .ofList (m.nonlinearBounds.map (·.2) ++ rows.map (·.upper))
  direction := m.direction
  categories := .ofList (categories.map Category.code)
  warmStart := .ofList (m.warmStart ps)

/-- The evaluator with the given parts of a model. -/
def problemEvaluator (m : Model) (ps : Positions) (rows : List Row) (objective : Option Expr) :
    UnifiedEvaluator :=
  ⟨m.block, ps, objective, rows.map (·.expression)⟩

/-- The problem of a model, and the categories of its variables that replaced another one. -/
def assembly (m : Model) : Except Fault (Problem × List (VariableId × Category)) := do
  let ps ← Positions.ofList m.vars
  let ranges ← m.variableRanges ps
  let given ← m.givenCategories ps
  let rows ← m.rows ps.position
  let objective ← m.objectiveExpression ps.position
  let p ← Problem.ofFields (m.problemFields ps ranges given.categories rows)
    (m.problemEvaluator ps rows objective)
  return (p, given.replaced)

/-- The problem of a model. -/
def problem (m : Model) : Except Fault Problem := m.assembly.map (·.1)

end Model

end Extremum
