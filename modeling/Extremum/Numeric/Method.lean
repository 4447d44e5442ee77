import Extremum.Fault
import Extremum.Problem.Features
import Extremum.Text.Lowercase

/-!
# Methods of the numerical backend

The four methods, what they can do, and how they are named in settings: in any case, optionally
after the name of a plugin and a slash.
-/

namespace Extremum.Numeric

/-- A method of the numerical backend. -/
inductive Method where
  | slsqp
  | trustConstr
  | cobyla
  | differentialEvolution
deriving DecidableEq, Repr

namespace Method

def name : Method → String
  | slsqp => "slsqp"
  | trustConstr => "trust-constr"
  | cobyla => "cobyla"
  | differentialEvolution => "differential_evolution"

def all : List Method := [slsqp, trustConstr, cobyla, differentialEvolution]

def ofName? (s : String) : Option Method := all.find? (·.name = s)

def defaultWord : String := "default"

def afterLastSlash (s : String) : String :=
  String.ofList (s.toList.reverse.takeWhile (· ≠ '/')).reverse

/-- The name of the method that a text selects. -/
def selectedName (s : String) : String :=
  let word := afterLastSlash (Text.lowercase s)
  if word = defaultWord then slsqp.name else word

def ofText (s : String) : Except Fault Method :=
  match ofName? (selectedName s) with
  | some m => .ok m
  | none => .error (.unsupportedMethod (selectedName s))

/-- A text is the name of a method, or the word for the default one. -/
def isSupported (s : String) : Bool :=
  let word := Text.lowercase s
  word == defaultWord || (ofName? word).isSome

def supporting : Feature → List Method
  | .bounds => all
  | .equalities => [slsqp, trustConstr, differentialEvolution]
  | .inequalities => all
  | .discreteVariables => [differentialEvolution]

def requiring : Feature → List Method
  | .bounds => [differentialEvolution]
  | _ => []

/-- Constraints are handed over as normalized functions, one by one. -/
def takesRows : Method → Bool
  | slsqp | cobyla => true
  | trustConstr | differentialEvolution => false

/-- Fails for the first feature of a problem that does not fit the method. -/
def checkFeatures (m : Method) (p : Problem) : Except Fault Unit :=
  p.checkFeatures m.name (fun f => (supporting f).map name) (fun f => (requiring f).map name)

end Method

end Extremum.Numeric
