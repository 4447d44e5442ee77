import Extremum.Expr.OfFunction
import Extremum.Model.Store

/-!
# Rows

The algebraic constraints of a model become rows: an expression and its bounds. Affine constraints
come before quadratic ones; within these, constraints come in the order of the kinds of their
regions, and then in the order of issue.
-/

namespace Extremum

/-- The expression and the bounds of an algebraic constraint. -/
structure Row where
  id : ConstraintId
  expression : Expr
  lower : Float
  upper : Float

/-- The algebraic constraints, in the order of enumeration. -/
def Model.algebraicConstraints (m : Model) : List Constraint :=
  Kind.algebraicFunctions.flatMap fun f => Kind.scalarRegions.flatMap fun r => m.group f r

def Row.ofConstraint (place : VariableId → Except Fault Nat) (c : Constraint) :
    Except Fault Row := do
  let e ← Expr.ofConstraint place c.function c.region
  let (lower, upper) ← c.region.bounds
  return ⟨c.id, e, lower, upper⟩

def Model.rows (m : Model) (place : VariableId → Except Fault Nat) : Except Fault (List Row) :=
  m.algebraicConstraints.mapM (Row.ofConstraint place)

end Extremum
