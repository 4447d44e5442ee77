import Extremum.Numeric.Method
import Extremum.Options.Schema

/-!
# Options of the numerical backend
-/

namespace Extremum.Numeric

open OptionKind

def word (words : List String) : OptionKind := choice (words.map .text)

def strategies : List String :=
  ["best1bin", "best1exp", "rand1bin", "rand1exp", "rand2bin", "rand2exp", "randtobest1bin",
    "randtobest1exp", "currenttobest1bin", "currenttobest1exp", "best2exp", "best2bin"]

/-- The factorizations of the trust region method. -/
def factorizations : List String :=
  ["NormalEquation", "AugmentedSystem", "QRFactorization", "SVDFactorization"]

/-- The address of the description of a method. -/
def description (page : String) : Option String :=
  some ("https://docs.scipy.org/doc/scipy/reference/" ++ page ++ ".html")

def optionsSchema : OptionsSchema where
  methods :=
    [ ("SLSQP", {
        options := [("disp", boolean), ("maxiter", integer), ("ftol", real), ("eps", real),
          ("finite_diff_rel_step", real)]
        address := description "optimize.minimize-slsqp" }),
      ("trust-constr", {
        options := [("disp", boolean), ("maxiter", integer), ("verbose", integer),
          ("gtol", real), ("xtol", real), ("barrier_tol", real), ("initial_tr_radius", real),
          ("initial_constr_penalty", real), ("initial_barrier_parameter", real),
          ("initial_barrier_tolerance", real), ("factorization_method", word factorizations),
          ("finite_diff_rel_step", real)]
        address := description "optimize.minimize-trustconstr" }),
      ("COBYLA", {
        options := [("disp", boolean), ("maxiter", integer), ("rhobeg", real), ("tol", real),
          ("catol", real)]
        address := description "optimize.minimize-cobyla" }),
      ("differential_evolution", {
        options := [("disp", boolean), ("maxiter", integer), ("strategy", word strategies),
          ("popsize", integer), ("tol", real), ("mutation", anyOf [real, tuple [real, real]]),
          ("recombination", real), ("seed", integer), ("polish", boolean),
          ("init", word ["latinhypercube", "sobol", "halton", "random"]), ("atol", real),
          ("updating", word ["immediate", "deferred"])]
        address := description "generated/scipy.optimize.differential_evolution" }) ]

/-- Fails unless the options are valid for the method that a text selects. -/
def checkOptions (method : String) (options : Option Value) : Except Fault Unit :=
  match options with
  | none => .ok ()
  | some v => do
    let _ ← optionsSchema.readOptions (Method.selectedName method) v
    return ()

end Extremum.Numeric
