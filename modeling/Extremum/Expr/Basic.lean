import Extremum.Model.ScalarFunction

/-!
# Expressions

Expression trees as they are handed to solvers. A variable is referred to by its position in the
problem, counted from one, or, before it is resolved, by its identifier in the model. Constants are
floats unless another type of numbers is named.
-/

namespace Extremum

/-- The elementary functions of one argument. -/
inductive UnaryFunction where
  | exp | log | sin | cos | tan | sqrt | abs | neg
deriving DecidableEq, Repr

/-- The elementary functions of two arguments. -/
inductive BinaryFunction where
  | pow | div
deriving DecidableEq, Repr

namespace UnaryFunction

def name : UnaryFunction → String
  | exp => "exp"
  | log => "log"
  | sin => "sin"
  | cos => "cos"
  | tan => "tan"
  | sqrt => "sqrt"
  | abs => "abs"
  | neg => "neg"

def all : List UnaryFunction := [exp, log, sin, cos, tan, sqrt, abs, neg]

def apply : UnaryFunction → Float → Float
  | exp => Float.exp
  | log => Float.log
  | sin => Float.sin
  | cos => Float.cos
  | tan => Float.tan
  | sqrt => Float.sqrt
  | abs => Float.abs
  | neg => fun x => -x

end UnaryFunction

namespace BinaryFunction

def name : BinaryFunction → String
  | pow => "pow"
  | div => "div"

def all : List BinaryFunction := [pow, div]

/-- A power; with exponent one half it is the square root, also of infinities and signed zeros. -/
def power (x y : Float) : Float := if y == 0.5 then x.sqrt else x.pow y

def apply : BinaryFunction → Float → Float → Float
  | pow => power
  | div => fun x y => x / y

end BinaryFunction

/-- The relation of a comparison. -/
inductive Comparator where
  | le
  | ge
  | eq
deriving DecidableEq, Repr

namespace Comparator

def symbol : Comparator → String
  | le => "<="
  | ge => ">="
  | eq => "=="

def ofSymbol? (s : String) : Option Comparator :=
  [le, ge, eq].find? (·.symbol = s)

end Comparator

/-- An expression tree. -/
inductive Expr (α : Type := Float) where
  | constant (value : α)
  /-- The variable at a position, counted from one. -/
  | position (p : Int)
  /-- A variable of a model, not resolved to a position yet. -/
  | reference (v : VariableId)
  | sum (terms : List (Expr α))
  | product (factors : List (Expr α))
  | unary (f : UnaryFunction) (argument : Expr α)
  | binary (f : BinaryFunction) (first second : Expr α)
  | comparison (relation : Comparator) (left right : Expr α)
  /-- The chained comparison `lower ≤ body ≤ upper`. -/
  | interval (lower : α) (body : Expr α) (upper : α)
  /-- Something that is not an expression, in the place of one. -/
  | foreign (object : Region)

namespace Expr

/-- The number of arguments of the elementary function with a name. -/
def arity? (name : String) : Option Nat :=
  if UnaryFunction.all.any (·.name = name) then some 1
  else if BinaryFunction.all.any (·.name = name) then some 2
  else none

/-- The call of an elementary function by its name. -/
def call (name : String) (args : List Expr) : Except Fault Expr :=
  match UnaryFunction.all.find? (·.name = name), BinaryFunction.all.find? (·.name = name), args with
  | some f, _, [a] => .ok (unary f a)
  | none, some f, [a, b] => .ok (binary f a b)
  | some _, _, args => .error (.callArity name 1 args.length)
  | none, some _, args => .error (.callArity name 2 args.length)
  | none, none, _ => .error (.unsupportedCall name)

mutual

/-- An expression in writing. A product of nothing is written as nothing. -/
def text : Expr → String
  | constant c => Decimal.text c
  | position p => "x[" ++ toString p ++ "]"
  | reference v => "x[" ++ v.text ++ "]"
  | sum terms => "(" ++ " + ".intercalate (texts terms) ++ ")"
  | product factors => " * ".intercalate (texts factors)
  | unary f a => f.name ++ "(" ++ a.text ++ ")"
  | binary f a b => f.name ++ "(" ++ a.text ++ ", " ++ b.text ++ ")"
  | comparison r a b => a.text ++ " " ++ r.symbol ++ " " ++ b.text
  | interval l e u => Decimal.text l ++ " <= " ++ e.text ++ " <= " ++ Decimal.text u
  | foreign object => object.text

def texts : List Expr → List String
  | [] => []
  | e :: rest => e.text :: texts rest

end

/-- The sum of a single constant that is zero: what an absent objective becomes. -/
def isTrivial : Expr → Bool
  | sum [constant c] => c == 0
  | _ => false

/--
What a comparison constrains: its left side when the right one is a constant, else the left side
minus the right one; the middle of a chained comparison. Other expressions constrain themselves.
-/
def body : Expr → Expr
  | comparison _ a (constant _) => a
  | comparison _ a b => sum [a, product [constant (-1), b]]
  | interval _ e _ => e
  | e => e

end Expr

end Extremum
