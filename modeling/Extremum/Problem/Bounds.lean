import Extremum.Model.Store
import Extremum.Problem.Positions

/-!
# Bounds of variables

Constraints on single variables give each variable a least and a greatest value. A constraint can
only tighten what others have set.
-/

namespace Extremum

/-- The range of a variable without bounds. -/
def unbounded : Float × Float := (-1.0 / 0.0, 1.0 / 0.0)

/-- A range cut down to some bounds. -/
def tightened (range bounds : Float × Float) : Float × Float :=
  (if range.1 < bounds.1 then bounds.1 else range.1,
    if bounds.2 < range.2 then bounds.2 else range.2)

namespace Model

/-- The ranges by position with that of the variable of a constraint cut down to its region. -/
def tighten (ps : Positions) (ranges : List (Float × Float)) (c : Constraint) :
    Except Fault (List (Float × Float)) := do
  let v ← c.variable
  let p ← ps.position v
  let bounds ← c.region.bounds
  changedAt ranges p (tightened · bounds)

/-- The ranges of all variables, by position. -/
def variableRanges (m : Model) (ps : Positions) : Except Fault (List (Float × Float)) :=
  (Kind.scalarRegions.flatMap (m.group .single)).foldlM (tighten ps)
    (List.replicate ps.size unbounded)

end Model

end Extremum
