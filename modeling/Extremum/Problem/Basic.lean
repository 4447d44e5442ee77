import Extremum.Evaluator.Unified
import Extremum.Grid.Basic

/-!
# Problems

A problem is what a solver is given: arrays by position and an evaluator for the objective and the
constraints. Every array has one entry for each variable or constraint.
-/

namespace Extremum

/-- Which way the objective is improved. -/
inductive Direction where
  | minimize
  | maximize
deriving DecidableEq, Repr

namespace Direction

def text : Direction → String
  | minimize => "Min"
  | maximize => "Max"

def all : List Direction := [minimize, maximize]

def ofText? (s : String) : Option Direction := all.find? (·.text = s)

/-- The factor that turns improving into minimizing. -/
def sign : Direction → Float
  | minimize => 1
  | maximize => -1

end Direction

/-- A problem in terms of positions. -/
structure Problem where
  variableCount : Nat
  constraintCount : Nat
  variableLower : Grid Float
  variableUpper : Grid Float
  constraintLower : Grid Float
  constraintUpper : Grid Float
  direction : Direction
  categories : Grid Category
  warmStart : Grid Float
  evaluator : UnifiedEvaluator
  variableLower_size : variableLower.size = variableCount
  variableUpper_size : variableUpper.size = variableCount
  constraintLower_size : constraintLower.size = constraintCount
  constraintUpper_size : constraintUpper.size = constraintCount
  categories_size : categories.size = variableCount
  warmStart_size : warmStart.size = variableCount
  evaluator_count : evaluator.constraintCount = constraintCount

namespace Problem

def hasDiscreteVariables (p : Problem) : Bool :=
  p.categories.entries.any (· != .continuous)

end Problem

end Extremum
