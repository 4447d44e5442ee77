import Extremum.Model.Basic
import Extremum.Value.Basic

/-!
# Events

What is worth a line in a log while a model is solved.
-/

namespace Extremum

/-- An event of a solve. -/
inductive Event where
  /-- A constraint replaced the category that another one gave to a variable. -/
  | categoryReplaced (v : VariableId) (category : Category)
  /-- The problem was assembled, with these numbers of variables and constraints. -/
  | assembled (vars nonlinear algebraic : Nat)
  /-- The solver for a method is about to run. -/
  | invoking (method : String)
  /-- The numerical backend ended with a status and a message. -/
  | backendFinished (method status : String) (message : Value)
  /-- The solver failed. -/
  | solverFailed (message : String)
  /-- The solver returned a status. -/
  | solverReturned (status : String)

def Event.text : Event → String
  | categoryReplaced v category =>
    "Variable " ++ v.text ++ " has multiple categories, using " ++ category.name
  | assembled vars nonlinear algebraic =>
    "Assembled problem with " ++ toString vars ++ " variables, " ++ toString nonlinear ++
      " nonlinear and " ++ toString algebraic ++ " algebraic constraints"
  | invoking method => "Invoking solver " ++ method
  | backendFinished method status message =>
    "SciPy " ++ method ++ " finished: " ++ status ++ " (" ++ message.display ++ ")"
  | solverFailed message => "Solver error, reporting an Error status: " ++ message
  | solverReturned status => "Solver returned status " ++ status

end Extremum
