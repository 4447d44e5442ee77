import Extremum.Expr.Basic
import Extremum.Decimal.ExactSum

/-!
# Compiling and evaluating expressions

Compiling checks once that a tree holds nothing but expressions over positions; what comes out is a
function of the vector of variables. Sums are exactly rounded, products multiply from the left.
Comparisons stand for what they constrain.
-/

namespace Extremum

/-- A compiled expression: its value at a vector, or why it has none there. -/
abbrev Compiled := List Float → Except Fault Float

/-- The fault of a sum without a value. -/
def Fault.ofSum : Decimal.SumFault → Fault
  | .overflow => .sumOverflow
  | .conflict => .sumConflict

/-- The first integer that is too large for an index. -/
def indexLimit : Int := 0x8000000000000000

/--
The entry of a vector at an index counted from zero. Negative indices count from the end. Integers
just beyond a machine word are told apart from those that no word holds.
-/
def readEntry (x : List Float) (index : Int) : Except Fault Float :=
  if index < -indexLimit ∨ 2 * indexLimit ≤ index then .error .unusableIndex
  else if indexLimit ≤ index then .error .outsideWord
  else
    let i := if index < 0 then index + x.length else index
    if i < 0 then .error (.outOfBounds index x.length)
    else
      match x[i.toNat]? with
      | some value => .ok value
      | none => .error (.outOfBounds index x.length)

/-- The exactly rounded sum of terms, each evaluated just before it is added. -/
def sumAt (terms : List Compiled) (x : List Float) : Except Fault Float := do
  let sum ← terms.foldlM (fun (s : Decimal.RunningSum) term => do
    (s.add (← term x)).mapError Fault.ofSum) Decimal.RunningSum.zero
  sum.total.mapError Fault.ofSum

/-- The product of factors, multiplied from the left. -/
def productAt (factors : List Compiled) (x : List Float) : Except Fault Float :=
  factors.foldlM (fun p factor => return p * (← factor x)) 1

namespace Expr

mutual

/-- Compiles an expression. The first part that cannot be compiled decides the fault. -/
def compile : Expr → Except Fault Compiled
  | constant c => .ok fun _ => .ok c
  | position p => .ok fun x => readEntry x (p - 1)
  | reference _ => .error .unresolvedReference
  | sum terms => return sumAt (← compileAll terms)
  | product factors => return productAt (← compileAll factors)
  | unary f a => do
    let a ← compile a
    return fun x => return f.apply (← a x)
  | binary f a b => do
    let a ← compile a
    let b ← compile b
    return fun x => do
      let left ← a x
      return f.apply left (← b x)
  | comparison _ a b =>
    match b with
    | constant _ => compile a
    | b => do
      let a ← compile a
      let b ← compile b
      return sumAt [a, productAt [fun _ => .ok (-1), b]]
  | interval _ e _ => compile e
  | foreign object => .error (.unsupportedNode object.kind)

def compileAll : List Expr → Except Fault (List Compiled)
  | [] => .ok []
  | e :: rest => do
    let e ← compile e
    return e :: (← compileAll rest)

end

/-- The value of an expression at a vector. -/
def evaluate (e : Expr) (x : List Float) : Except Fault Float := do
  (← e.compile) x

end Expr

end Extremum
