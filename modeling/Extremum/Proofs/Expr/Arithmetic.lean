import Extremum.Proofs.Expr.Compilation

/-!
# Arithmetics

Compiling an expression needs few operations on numbers. With these as a parameter, one and the
same tree can be computed in floats or in exact numbers. What a reference to a model variable stands
for is a parameter too. In floats, and if references stand for nothing, this is how expressions are
compiled.
-/

namespace Extremum

/-- A function of a vector that may have no value. -/
abbrev Computation (α : Type) := List α → Except Fault α

/-- The operations that expressions are computed with. -/
structure Arithmetic (α : Type) where
  /-- The entry of a vector at an index counted from zero. -/
  read : List α → Int → Except Fault α
  sum : List (Computation α) → Computation α
  product : List (Computation α) → Computation α
  unary : UnaryFunction → α → Except Fault α
  binary : BinaryFunction → α → α → Except Fault α
  minusOne : α

namespace Arithmetic

/-- The arithmetic that expressions are compiled with. -/
def floats : Arithmetic Float where
  read := readEntry
  sum := sumAt
  product := productAt
  unary f y := .ok (f.apply y)
  binary f y z := .ok (f.apply y z)
  minusOne := -1

/-- Exact arithmetic. It has sums and products, but no elementary functions. -/
def rationals : Arithmetic ℚ where
  read x i :=
    match x[i.toNat]? with
    | some y => if i < 0 then .error (.outOfBounds i x.length) else .ok y
    | none => .error (.outOfBounds i x.length)
  sum terms x := return (← terms.mapM fun term => term x).sum
  product factors x := return (← factors.mapM fun factor => factor x).prod
  unary f _ := .error (.unsupportedCall f.name)
  binary f _ _ := .error (.unsupportedCall f.name)
  minusOne := -1

end Arithmetic

namespace Expr

variable {α : Type}

/-- References that stand for nothing. -/
def unresolved (_ : VariableId) : Except Fault (Computation α) := .error .unresolvedReference

mutual

/-- Compiles an expression in an arithmetic, with a meaning for references. -/
def compileIn (A : Arithmetic α) (meaning : VariableId → Except Fault (Computation α)) :
    Expr α → Except Fault (Computation α)
  | constant c => .ok fun _ => .ok c
  | position p => .ok fun x => A.read x (p - 1)
  | reference v => meaning v
  | sum terms => return A.sum (← compileAllIn A meaning terms)
  | product factors => return A.product (← compileAllIn A meaning factors)
  | unary f a => do
    let a ← compileIn A meaning a
    return fun x => do A.unary f (← a x)
  | binary f a b => do
    let a ← compileIn A meaning a
    let b ← compileIn A meaning b
    return fun x => do
      let left ← a x
      A.binary f left (← b x)
  | comparison _ a b =>
    match b with
    | constant _ => compileIn A meaning a
    | b => do
      let a ← compileIn A meaning a
      let b ← compileIn A meaning b
      return A.sum [a, A.product [fun _ => .ok A.minusOne, b]]
  | interval _ e _ => compileIn A meaning e
  | foreign object => .error (.unsupportedNode object.kind)

def compileAllIn (A : Arithmetic α) (meaning : VariableId → Except Fault (Computation α)) :
    List (Expr α) → Except Fault (List (Computation α))
  | [] => .ok []
  | e :: rest => do
    let e ← compileIn A meaning e
    return e :: (← compileAllIn A meaning rest)

end

/-- The value of an expression at a vector, in an arithmetic and with a meaning for references. -/
def evaluateIn (A : Arithmetic α) (meaning : VariableId → Except Fault (Computation α))
    (e : Expr α) (x : List α) : Except Fault α := do
  (← e.compileIn A meaning) x

/-- A comparison with something other than a constant subtracts its right side from its left. -/
theorem compileIn_comparison {A : Arithmetic α}
    {meaning : VariableId → Except Fault (Computation α)}
    {r : Comparator} {a b : Expr α} (hb : ∀ c, b ≠ constant c) :
    (comparison r a b).compileIn A meaning = (do
      let a ← a.compileIn A meaning
      let b ← b.compileIn A meaning
      return A.sum [a, A.product [fun _ => .ok A.minusOne, b]]) := by
  cases b with
  | constant c => exact absurd rfl (hb c)
  | _ => rfl

mutual

/-- Compiling is compiling in floats, where references stand for nothing. -/
theorem compile_eq_compileIn : (e : Expr) → e.compile = e.compileIn .floats unresolved
  | constant _ | position _ | reference _ | foreign _ => rfl
  | sum terms => by
      rw [compile, compileIn, compileAll_eq_compileAllIn terms]
      rfl
  | product factors => by
      rw [compile, compileIn, compileAll_eq_compileAllIn factors]
      rfl
  | unary f a => by
      rw [compile, compileIn, compile_eq_compileIn a]
      rfl
  | binary f a b => by
      rw [compile, compileIn, compile_eq_compileIn a, compile_eq_compileIn b]
      rfl
  | comparison r a b => by
      have ha := compile_eq_compileIn a
      have hb := compile_eq_compileIn b
      cases b with
      | constant c => rw [compile, compileIn, ha]
      | _ =>
          rw [compile_comparison (by simp), compileIn_comparison (by simp), ha, hb]
          rfl
  | interval l e u => by rw [compile, compileIn, compile_eq_compileIn e]

theorem compileAll_eq_compileAllIn :
    (es : List Expr) → compileAll es = compileAllIn .floats unresolved es
  | [] => rfl
  | e :: rest => by
      rw [compileAll, compileAllIn, compile_eq_compileIn e, compileAll_eq_compileAllIn rest]

end

theorem evaluate_eq_evaluateIn (e : Expr) (x : List Float) :
    e.evaluate x = e.evaluateIn .floats unresolved x := by
  rw [evaluate, evaluateIn, compile_eq_compileIn]

end Expr

end Extremum
