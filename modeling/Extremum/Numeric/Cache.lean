import Extremum.Expr.Evaluation

/-!
# Constraint values kept between calls

A minimizer asks for one constraint after another at the same point. All constraints are evaluated
together when a new point comes along, and their values are kept with it.

The point counts as seen even if a constraint fails there. The values kept before then stay.
-/

namespace Extremum.Numeric

/-- The point seen last, and the values computed last. -/
structure ConstraintCache where
  point : Option (List Float)
  values : Option (List Float)

namespace ConstraintCache

def empty : ConstraintCache := ⟨none, none⟩

/-- Two points are equal in every entry. A NaN differs from itself. -/
def samePoint (x y : List Float) : Bool :=
  x.length == y.length && (x.zip y).all fun p => p.1 == p.2

/-- The point is the one seen last. -/
def holds (c : ConstraintCache) (x : List Float) : Bool :=
  match c.point with
  | some y => samePoint x y
  | none => false

/-- The values of all constraints at a point, and what is kept afterwards. -/
def valuesAt (constraints : List Compiled) (x : List Float) (c : ConstraintCache) :
    Except Fault (List Float) × ConstraintCache :=
  if c.holds x then
    match c.values with
    | some values => (.ok values, c)
    | none => (.error .nothingCached, c)
  else
    match constraints.mapM (· x) with
    | .ok values => (.ok values, ⟨some x, some values⟩)
    | .error fault => (.error fault, ⟨some x, c.values⟩)

end ConstraintCache

end Extremum.Numeric
