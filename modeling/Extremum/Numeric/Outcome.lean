import Extremum.Solution.Status
import Extremum.Text.Lowercase
import Extremum.Value.Basic

/-!
# Outcomes of the numerical backend

What a minimizer returns, and the status that follows from it.
-/

namespace Extremum.Numeric

/-- What a minimizer returns. -/
structure Outcome where
  /-- The point, by position. -/
  point : Value
  success : Option Value
  message : Option Value

/-- A point may violate its limits by this much and still count as feasible. -/
def feasibilityTolerance : Float := 1e-6

/-- An objective that is this far below zero counts as unbounded. -/
def unboundedThreshold : Float := 1e20

/-- The words that tell of a limit that was reached. -/
def limitWords : List String := ["iteration limit", "maximum number of", "exceeded"]

/-- A list of characters occurs in another. -/
def occursIn (part : List Char) : List Char → Bool
  | [] => part.isEmpty
  | c :: rest => part.isPrefixOf (c :: rest) || occursIn part rest

namespace Outcome

/-- The message tells of a limit that was reached. -/
def isAtLimit (o : Outcome) : Bool :=
  let message := (Text.lowercase ((o.message.map Value.display).getD "")).toList
  limitWords.any fun words => occursIn words.toList message

def isSuccess (o : Outcome) : Bool := (o.success.map Value.isTruthy).getD false

/--
The status at a point whose objective, in the form to be minimized, and worst violation are given.
-/
def status (o : Outcome) (objective violation : Float) : SolverStatus :=
  if objective.isNaN then .failed
  else if objective ≤ -unboundedThreshold then .unbounded
  else if o.isAtLimit then .userLimit
  else if feasibilityTolerance < violation then .infeasible
  else if o.isSuccess then .optimal
  else .failed

end Outcome

end Extremum.Numeric
