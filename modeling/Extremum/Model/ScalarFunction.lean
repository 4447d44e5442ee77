import Extremum.Model.Region

/-!
# Scalar functions

The functions of a model: a single variable, an affine function, or a quadratic one. The quadratic
part stands for half of `xᵀ Q x`, so a term with one variable twice counts half. Coefficients are
floats unless another type of numbers is named.
-/

namespace Extremum

/-- The term `coefficient · variable`. -/
structure AffineTerm (α : Type := Float) where
  coefficient : α
  var : VariableId

/-- A term of the quadratic part. -/
structure QuadraticTerm (α : Type := Float) where
  coefficient : α
  first : VariableId
  second : VariableId

/-- A function of the variables of a model. -/
inductive ScalarFunction (α : Type := Float) where
  | single (v : VariableId)
  | affine (terms : List (AffineTerm α)) (constant : α)
  | quadratic (affine : List (AffineTerm α)) (quadratic : List (QuadraticTerm α)) (constant : α)

namespace ScalarFunction

variable {α : Type}

def zero : ScalarFunction := affine [] 0

def kind : ScalarFunction α → Kind
  | single _ => .single
  | affine _ _ => .affine
  | quadratic _ _ _ => .quadratic

/-- The variables a function refers to, in order and with repetitions. -/
def vars : ScalarFunction α → List VariableId
  | single v => [v]
  | affine terms _ => terms.map (·.var)
  | quadratic terms products _ =>
    terms.map (·.var) ++ products.flatMap fun t => [t.first, t.second]

/-- The terms that do not mention a variable. -/
def termsWithout (v : VariableId) (terms : List (AffineTerm α)) : List (AffineTerm α) :=
  terms.filter (·.var ≠ v)

/-- The quadratic terms that do not mention a variable. -/
def productsWithout (v : VariableId) (products : List (QuadraticTerm α)) :
    List (QuadraticTerm α) :=
  products.filter fun t => t.first ≠ v ∧ t.second ≠ v

/-- The function without the terms that mention a variable. A single variable stays. -/
def without (v : VariableId) : ScalarFunction α → ScalarFunction α
  | single w => single w
  | affine terms c => affine (termsWithout v terms) c
  | quadratic terms products c =>
    quadratic (termsWithout v terms) (productsWithout v products) c

end ScalarFunction

/-- What a caller may hand over as a function: a function, or a region in its place. -/
inductive FunctionArgument where
  | function (f : ScalarFunction)
  | foreign (r : Region)

namespace FunctionArgument

/-- The kind of what was handed over. -/
def kind : FunctionArgument → Kind
  | function f => f.kind
  | foreign r => r.kind

end FunctionArgument

end Extremum
