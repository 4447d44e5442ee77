import Extremum.Grid.Stretch
import Extremum.Problem.Basic
import Extremum.Problem.Limits
import Extremum.Text.Lowercase

/-!
# Features of problems

What a problem makes use of, and whether a method can do with it. A method may support a feature,
and it may require it. Names of methods are compared without regard to case.
-/

namespace Extremum

/-- Something that a problem may make use of. -/
inductive Feature where
  | bounds
  | equalities
  | inequalities
  | discreteVariables
deriving DecidableEq, Repr

namespace Feature

/-- The key of a feature in tables of methods. -/
def key : Feature → String
  | bounds => "bounds"
  | equalities => "eq"
  | inequalities => "ineq"
  | discreteVariables => "discrete"

def text : Feature → String
  | bounds => "bound constraints"
  | equalities => "equality constraints"
  | inequalities => "inequality constraints"
  | discreteVariables => "integer or binary variables"

/-- All features, in the order in which they are checked. -/
def all : List Feature := [bounds, equalities, inequalities, discreteVariables]

end Feature

/-- The names of the methods that have some property, for each feature. -/
abbrev FeatureTable := Feature → List String

/-- Fails if a method lacks a feature that is used, or requires one that is not. -/
def Feature.check (f : Feature) (isUsed : Bool) (method : String)
    (supported required : FeatureTable) : Except Fault Unit :=
  let isIn := fun (names : List String) =>
    (names.map Text.lowercase).contains (Text.lowercase method)
  if isUsed then
    if isIn (supported f) then .ok () else .error (.featureUnsupported method f.text)
  else
    if isIn (required f) then .error (.featureRequired method f.text) else .ok ()

namespace Problem

/-- Whether limits of constraints are close, for all limits that meet. -/
def equalityFlags (p : Problem) : Except Fault (List Bool) := do
  let flags ← p.constraintUpper.combine (fun upper lower => Measure.areClose lower upper)
    p.constraintLower
  return flags.entries

/-- The problem makes use of a feature; the flags tell which limits are close. -/
def uses (p : Problem) (equalities : List Bool) : Feature → Bool
  | .bounds =>
    p.variableLower.entries.any Float.isFinite || p.variableUpper.entries.any Float.isFinite
  | .equalities => equalities.any id
  | .inequalities => equalities.any (!·)
  | .discreteVariables => p.hasDiscreteVariables

/-- Fails for the first feature that does not fit a method. -/
def checkFeatures (p : Problem) (method : String) (supported required : FeatureTable) :
    Except Fault Unit := do
  let equalities ← p.equalityFlags
  Feature.all.forM fun f => f.check (p.uses equalities f) method supported required

end Problem

end Extremum
