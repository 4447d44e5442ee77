import Extremum.Expr.Basic

/-!
# Resolving references

References to the variables of a model are replaced by positions, from left to right.
-/

namespace Extremum.Expr

variable {α : Type}

mutual

/-- The expression with every reference to a model variable replaced by its position. -/
def resolve (place : VariableId → Except Fault Nat) : Expr α → Except Fault (Expr α)
  | constant c => .ok (constant c)
  | position p => .ok (position p)
  | reference v => return position (← place v)
  | sum terms => return sum (← resolveAll place terms)
  | product factors => return product (← resolveAll place factors)
  | unary f a => return unary f (← resolve place a)
  | binary f a b => do
    let a ← resolve place a
    return binary f a (← resolve place b)
  | comparison r a b => do
    let a ← resolve place a
    return comparison r a (← resolve place b)
  | interval l e u => return interval l (← resolve place e) u
  | foreign object => .ok (foreign object)

def resolveAll (place : VariableId → Except Fault Nat) :
    List (Expr α) → Except Fault (List (Expr α))
  | [] => .ok []
  | e :: rest => do
    let e ← resolve place e
    return e :: (← resolveAll place rest)

end

end Extremum.Expr
