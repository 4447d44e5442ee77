import Extremum.Expr.Basic

/-!
# Functions and constraints as expressions

A function becomes the sum of its constant and one product per term, in the order of its terms. A
region turns the expression of a function into a comparison.
-/

namespace Extremum.Expr

variable {α : Type} [Mul α] [OfScientific α] (place : VariableId → Except Fault Nat)

def ofAffineTerm (t : AffineTerm α) : Except Fault (Expr α) :=
  return product [constant t.coefficient, position (← place t.var)]

/-- The product of a quadratic term; one variable twice has half the coefficient. -/
def ofQuadraticTerm (t : QuadraticTerm α) : Except Fault (Expr α) := do
  let p ← place t.first
  let q ← place t.second
  let c := if p = q then t.coefficient * 0.5 else t.coefficient
  return product [constant c, position p, position q]

/-- The expression of a function. The variables of quadratic terms are looked up first. -/
def ofFunction : ScalarFunction α → Except Fault (Expr α)
  | .single v => return position (← place v)
  | .affine terms c => do
    let terms ← terms.mapM (ofAffineTerm place)
    return sum (constant c :: terms)
  | .quadratic terms products c => do
    let products ← products.mapM (ofQuadraticTerm place)
    let terms ← terms.mapM (ofAffineTerm place)
    return sum (constant c :: (terms ++ products))

/-- The expression of what was handed over as a function. -/
def ofArgument : FunctionArgument → Except Fault Expr
  | .function f => ofFunction place f
  | .foreign r => .error (.unsupportedFunction r.kind)

/-- The comparison that says that the value of an expression lies in a region. -/
def inRegion (e : Expr) : Region → Except Fault Expr
  | .lessThan upper => .ok (comparison .le e (constant upper.value))
  | .greaterThan lower => .ok (comparison .ge e (constant lower.value))
  | .equalTo value _ => .ok (comparison .eq e (constant value.value))
  | .interval lower upper _ => .ok (interval lower.value e upper.value)
  | r => .error (.unsupportedRegion r.kind)

/-- The comparison that says that the value of a function lies in a region. -/
def ofConstraint (f : ScalarFunction) (r : Region) : Except Fault Expr := do
  inRegion (← ofFunction place f) r

end Extremum.Expr
