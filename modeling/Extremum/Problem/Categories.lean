import Extremum.Model.Store
import Extremum.Problem.Positions

/-!
# Categories of variables

Constraints on single variables make variables binary or integer. All binary ones are applied before
the integer ones, so a variable that is both becomes an integer.
-/

namespace Extremum

/-- The categories that constraints give to variables. -/
structure GivenCategories where
  /-- By position; none was given to a variable yet if there is none. -/
  given : List (Option Category)
  /-- The categories that replaced another one, in order. -/
  replaced : List (VariableId × Category)

/-- The categories by position. -/
def GivenCategories.categories (g : GivenCategories) : List Category :=
  g.given.map (·.getD .continuous)

namespace Model

/-- The categories after the variable of a constraint is given that of its region. -/
def categorize (ps : Positions) (g : GivenCategories) (c : Constraint) :
    Except Fault GivenCategories := do
  let v ← c.variable
  let p ← ps.position v
  let category ← c.region.category
  let given ← changedAt g.given p fun _ => some category
  let isOther := g.given[p - 1]?.join.any (· != category)
  return ⟨given, if isOther then g.replaced ++ [(v, category)] else g.replaced⟩

/-- What constraints say of the categories of all variables. -/
def givenCategories (m : Model) (ps : Positions) : Except Fault GivenCategories :=
  (Kind.categoryRegions.flatMap (m.group .single)).foldlM (categorize ps)
    ⟨List.replicate ps.size none, []⟩

end Model

end Extremum
