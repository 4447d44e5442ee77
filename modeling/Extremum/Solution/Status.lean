/-!
# Statuses

A solver reports its outcome as a symbol. From the symbol follow the reason why the solve ended and
what the result is worth. Without a solve there is no symbol.
-/

namespace Extremum

/-- The outcomes with a meaning of their own. -/
inductive SolverStatus where
  | optimal
  | infeasible
  | unbounded
  | userLimit
  | failed
deriving DecidableEq, Repr

namespace SolverStatus

def symbol : SolverStatus → String
  | optimal => "Optimal"
  | infeasible => "Infeasible"
  | unbounded => "Unbounded"
  | userLimit => "UserLimit"
  | failed => "Error"

def name : SolverStatus → String
  | optimal => "OPTIMAL"
  | infeasible => "INFEASIBLE"
  | unbounded => "UNBOUNDED"
  | userLimit => "USER_LIMIT"
  | failed => "ERROR"

def all : List SolverStatus := [optimal, infeasible, unbounded, userLimit, failed]

def ofSymbol? (s : String) : Option SolverStatus := all.find? (·.symbol = s)

end SolverStatus

/-- Why a solve ended. -/
inductive Termination where
  | notCalled
  | locallySolved
  | infeasible
  | dualInfeasible
  | otherLimit
  | otherError
deriving DecidableEq, Repr

namespace Termination

def text : Termination → String
  | notCalled => "optimize_not_called"
  | locallySolved => "locally_solved"
  | infeasible => "infeasible"
  | dualInfeasible => "dual_infeasible"
  | otherLimit => "other_limit"
  | otherError => "other_error"

def name : Termination → String
  | notCalled => "OPTIMIZE_NOT_CALLED"
  | locallySolved => "LOCALLY_SOLVED"
  | infeasible => "INFEASIBLE"
  | dualInfeasible => "DUAL_INFEASIBLE"
  | otherLimit => "OTHER_LIMIT"
  | otherError => "OTHER_ERROR"

def all : List Termination :=
  [notCalled, locallySolved, infeasible, dualInfeasible, otherLimit, otherError]

/-- The reason that goes with an outcome. -/
def ofStatus : SolverStatus → Termination
  | .optimal => locallySolved
  | .infeasible => infeasible
  | .unbounded => dualInfeasible
  | .userLimit => otherLimit
  | .failed => otherError

/-- The reason that goes with a symbol; one without a meaning counts as an error. -/
def ofSymbol : Option String → Termination
  | none => notCalled
  | some s =>
    match SolverStatus.ofSymbol? s with
    | some status => ofStatus status
    | none => otherError

end Termination

/-- What a result is worth. -/
inductive ResultStatus where
  | noSolution
  | feasiblePoint
deriving DecidableEq, Repr

namespace ResultStatus

/-- The word for what a result is worth. -/
def text : ResultStatus → String
  | noSolution => "no_solution"
  | feasiblePoint => "feasible_point"

/-- The name of what a result is worth. -/
def name : ResultStatus → String
  | noSolution => "NO_SOLUTION"
  | feasiblePoint => "FEASIBLE_POINT"

/-- All that a result can be worth. -/
def all : List ResultStatus := [noSolution, feasiblePoint]

/-- What the variable values are worth: only an optimal outcome has a point. -/
def primal (symbol : Option String) : ResultStatus :=
  if symbol = some SolverStatus.optimal.symbol then feasiblePoint else noSolution

/-- What the dual values are worth: there never are any. -/
def dual (_symbol : Option String) : ResultStatus := noSolution

def count (symbol : Option String) : Nat := if primal symbol = feasiblePoint then 1 else 0

end ResultStatus

end Extremum
