import Extremum.Numeric.Options
import Extremum.Numeric.Solve
import Extremum.Optimizer.Solve

/-!
# The numerical backend as a plugin
-/

namespace Extremum.Numeric

variable {σ : Type}

def pluginName : String := "scipy"

/--
A solve as an action on the optimizer's surroundings, which keep the exchange with a minimizer.
-/
def embedded (keep : Exchange → σ → σ) (action : SolveM SolverResult) : WorldM σ SolverResult :=
  fun w =>
    let after := fun (s : SolveState) =>
      { w with
        evaluator := s.evaluator
        events := w.events ++ s.events
        memory := match s.exchange with
          | some exchange => keep exchange w.memory
          | none => w.memory }
    match action ⟨w.evaluator, [], none⟩ with
    | .ok r s => .ok r (after s)
    | .error fault s => .error fault (after s)

def provider (minimizer : Minimizer) (keep : Exchange → σ → σ) : SolverProvider σ where
  checkOptions method options := checkOptions method (options.map .dict)
  create s := do
    let m ← Method.ofText s.method
    return fun p => embedded keep (solve s m minimizer p)

def plugin (minimizer : Minimizer) (keep : Exchange → σ → σ) : Plugin (SolverProvider σ) where
  supports := Method.isSupported
  discoverable := true
  value := provider minimizer keep

end Extremum.Numeric
