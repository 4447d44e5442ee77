import Extremum.Optimizer.Basic

/-!
# Solving models

A solve assembles the problem of a model, hands it to a solver once, and keeps the result in a
snapshot. The solver may have any effect meanwhile, also on the optimizer itself; a solve that it
starts is refused. When the solver fails, that is a result too; any other fault leaves no result
and is passed on.
-/

namespace Extremum

/-- All that a solve can change. -/
structure World (σ : Type) where
  optimizer : Optimizer
  evaluator : EvaluatorState
  /-- What happened so far. -/
  events : List Event
  /-- What belongs to the solver. -/
  memory : σ

/-- An action on an optimizer and its surroundings. -/
abbrev WorldM (σ : Type) := EStateM Fault (World σ)

/-- A solver finds a result for a problem. -/
abbrev Solver (σ : Type) := Problem → WorldM σ SolverResult

/-- A plugin that provides solvers. -/
structure SolverProvider (σ : Type) where
  /-- Fails unless the options are valid for a method. -/
  checkOptions : String → Option Entries → Except Fault Unit
  /-- The solver for some settings. -/
  create : Settings → Except Fault (Solver σ)

namespace World

variable {σ : Type}

def record (events : List Event) : WorldM σ Unit :=
  modify fun w => { w with events := w.events ++ events }

def change (f : Optimizer → Optimizer) : WorldM σ Unit :=
  modify fun w => { w with optimizer := f w.optimizer }

/-- The result of an action, or its fault, as a value. -/
def attempt {α : Type} (action : WorldM σ α) : WorldM σ (Except Fault α) := fun w =>
  match action w with
  | .ok a w => .ok (.ok a) w
  | .error fault w => .ok (.error fault) w

end World

namespace Optimizer

open World

variable {σ : Type}

/--
The optimizer for some settings and the plugin for its method. The options have to be valid for the
method.
-/
def create (registry : Registry (SolverProvider σ)) (s : Settings) :
    Except Fault (Optimizer × SolverProvider σ) := do
  let provider ← registry.plugin Registry.solverType s.method
  provider.checkOptions s.method s.options
  return (ofSettings s, provider)

/-- What is worth recording about the problem of a model. -/
def assemblyEvents (m : Model) (p : Problem) (replaced : List (VariableId × Category)) :
    List Event :=
  replaced.map (fun (v, c) => .categoryReplaced v c) ++
    [.assembled p.variableCount m.nonlinearBounds.length m.algebraicConstraints.length]

/-- The result of a solver, which has to hold one value for each variable. -/
def solved (solver : Solver σ) (p : Problem) : WorldM σ SolverResult := do
  let r ← solver p
  if r.primal.isVector p.variableCount then return r
  else
    throw (.solverFailure ("The solver returned " ++ toString r.primal.size ++
      " variable values, expected " ++ toString p.variableCount))

def conclude (ps : Positions) : Except Fault SolverResult → WorldM σ Unit
  | .ok r => do
    record [.solverReturned r.status]
    let s ← MonadExcept.ofExcept (Snapshot.ofResult ps r)
    change fun o => { o with snapshot := some s }
  | .error (.solverFailure message) => do
    record [.solverFailed message]
    change fun o => { o with snapshot := some .failure }
  | .error fault => throw fault

/-- Assembles the problem, runs the solver and keeps its result. -/
def solveOnce (provider : SolverProvider σ) : WorldM σ Unit := do
  let w ← get
  let (p, replaced) ← MonadExcept.ofExcept w.optimizer.model.assembly
  record (assemblyEvents w.optimizer.model p replaced)
  modify fun w => { w with evaluator := { w.evaluator with resolved := [] } }
  let solver ← MonadExcept.ofExcept (provider.create w.optimizer.settings)
  record [.invoking w.optimizer.settings.method]
  conclude p.evaluator.positions (← attempt (solved solver p))

/-- Solves the model. The earlier result is dropped first. -/
def optimize (provider : SolverProvider σ) : WorldM σ Unit := do
  if (← get).optimizer.inProgress then throw .solveInProgress
  change fun o => { o with inProgress := true, snapshot := none }
  let outcome ← attempt (solveOnce provider)
  change fun o => { o with inProgress := false }
  MonadExcept.ofExcept outcome

end Optimizer

end Extremum
