/-!
# Identifiers and kinds

Variables and constraints are known by identifiers that a model issues. The identifier of a
constraint names the kinds of its function and of its region.
-/

namespace Extremum

/-- The identifier of a variable. -/
structure VariableId where
  value : Int
deriving DecidableEq, Repr, Inhabited

/-- The identifier as it stands in messages. -/
def VariableId.text (v : VariableId) : String :=
  "VariableIndex(value=" ++ toString v.value ++ ")"

/-- The kinds of functions and regions. -/
inductive Kind where
  | single
  | affine
  | quadratic
  | lessThan
  | greaterThan
  | equalTo
  | interval
  | zeroOne
  | integer
deriving DecidableEq, Repr

namespace Kind

def name : Kind → String
  | single => "SingleVariable"
  | affine => "ScalarAffineFunction"
  | quadratic => "ScalarQuadraticFunction"
  | lessThan => "LessThan"
  | greaterThan => "GreaterThan"
  | equalTo => "EqualTo"
  | interval => "Interval"
  | zeroOne => "ZeroOne"
  | integer => "Integer"

def all : List Kind :=
  [single, affine, quadratic, lessThan, greaterThan, equalTo, interval, zeroOne, integer]

def ofName? (s : String) : Option Kind := all.find? (·.name = s)

/-- The regions that can hold the values of any function, in the order of enumeration. -/
def scalarRegions : List Kind := [lessThan, greaterThan, equalTo, interval]

/-- The regions that make a variable discrete, in the order in which they are applied. -/
def categoryRegions : List Kind := [zeroOne, integer]

/-- The functions of algebraic constraints, in the order of enumeration. -/
def algebraicFunctions : List Kind := [affine, quadratic]

/-- The supported pairs of function and region, in the order of enumeration. -/
def supportedPairs : List (Kind × Kind) :=
  (scalarRegions ++ categoryRegions).map (single, ·) ++
    algebraicFunctions.flatMap fun f => scalarRegions.map (f, ·)

/-- Constraints of this function and region can be added to a model. -/
def isSupported (function region : Kind) : Bool :=
  supportedPairs.contains (function, region)

end Kind

/-- The identifier of a constraint. -/
structure ConstraintId where
  value : Int
  function : Kind
  region : Kind
deriving DecidableEq, Repr

/-- What a variable ranges over. -/
inductive Category where
  | continuous
  | binary
  | integer
deriving DecidableEq, Repr

namespace Category

/-- The code of a category in the arrays handed to solvers. -/
def code : Category → Nat
  | continuous => 1
  | binary => 2
  | integer => 3

def name : Category → String
  | continuous => "CONTINUOUS"
  | binary => "BINARY"
  | integer => "INTEGER"

def all : List Category := [continuous, binary, integer]

end Category

/-- What is asked of the objective. -/
inductive Sense where
  | minimize
  | maximize
  /-- Any feasible point will do. -/
  | feasibility
deriving DecidableEq, Repr

namespace Sense

def text : Sense → String
  | minimize => "min"
  | maximize => "max"
  | feasibility => "feasibility"

def name : Sense → String
  | minimize => "MINIMIZE"
  | maximize => "MAXIMIZE"
  | feasibility => "FEASIBILITY"

def all : List Sense := [minimize, maximize, feasibility]

def ofText? (s : String) : Option Sense := all.find? (·.text = s)

end Sense

end Extremum
