import Extremum.Problem.Assembly
import Extremum.Proofs.Model.Edit
import Extremum.Proofs.Numeric.Freshness
import Extremum.Proofs.Numeric.Functions
import Extremum.Proofs.Problem.Checking
import Extremum.Proofs.Problem.Normalized

/-!
# What the numerical backend reports

A solver is to return a result or to report that it failed. What goes wrong while a minimizer runs
is reported. What goes wrong before and afterwards is not: when bounds and start are made of arrays
whose shapes do not fit, when the point that was returned is read, when objective and constraints
are evaluated there and compared with their limits, and when there is no message to put into the
log.
-/

namespace Extremum

namespace Fault

/-- The fault by which solvers report that they failed. -/
def IsReport : Fault → Prop
  | .solverFailure _ => True
  | _ => False

/-- The faults of values that are no numbers, not there, or cannot be summed or compared. -/
def IsUnusable : Fault → Prop
  | ragged _ | tooDeep _ | unreadableFloat _ | outsideFloat | notReal _ => True
  | outOfBounds _ _ | unusableIndex | outsideWord | nothingCached => True
  | sumOverflow | sumConflict | unevenShapes _ => True
  | _ => False

theorem IsUnusable.not_isReport {fault : Fault} (h : fault.IsUnusable) : ¬ fault.IsReport := by
  cases fault with
  | solverFailure message => exact False.elim h
  | _ => exact id

end Fault

namespace Grid

variable {v : Value} {fault : Fault}

theorem isUnusable_of_shapeOf (h : shapeOf v = .error fault) : fault.IsUnusable := by
  unfold shapeOf at h
  dsimp only at h
  split at h
  · cases h
  split at h
  · cases h
    trivial
  · cases h
    trivial

theorem isUnusable_of_toFloat (h : v.toFloat = .error fault) : fault.IsUnusable := by
  unfold Value.toFloat at h
  split at h
  · cases h
  · dsimp only at h
    split at h <;> cases h
    trivial
  · cases h
  · split at h <;> cases h
    trivial
  all_goals
    cases h
    trivial

theorem isUnusable_of_realEntry (h : realEntry v = .error fault) : fault.IsUnusable := by
  unfold realEntry at h
  split at h
  · cases h
  · exact isUnusable_of_toFloat h

theorem isUnusable_of_ofNested (h : ofNested realEntry v = .error fault) : fault.IsUnusable := by
  rcases bind_eq_error.1 h with h | ⟨shape, -, h⟩
  · exact isUnusable_of_shapeOf h
  rcases bind_eq_error.1 h with h | ⟨entries, -, h⟩
  · obtain ⟨entry, -, h⟩ := exists_of_mapM_error h
    exact isUnusable_of_realEntry h
  split at h <;> cases h
  trivial

end Grid

theorem Expr.MayFault.isUnusable {ps : List Int} {x : List Float} {fault : Fault}
    (h : MayFault ps x fault) : fault.IsUnusable := by
  rcases h with rfl | rfl | ⟨p, -, h⟩
  · trivial
  · trivial
  · rcases readEntry_eq_error h with rfl | rfl | rfl <;> trivial

namespace Numeric

/-- There is a result, or a report that there is none. -/
def IsReported {α : Type} : Except Fault α → Prop
  | .ok _ => True
  | .error fault => fault.IsReport

theorem isReported_of_ok {α : Type} {x : Except Fault α} {a : α} (h : x = .ok a) :
    IsReported x := by
  rw [h]
  trivial

theorem isReported_bind_iff {α β : Type} {x : Except Fault α} {g : α → Except Fault β}
    (h : ∀ fault, x = .error fault → ¬ fault.IsReport) :
    IsReported (x >>= g) ↔ ∃ a, x = .ok a ∧ IsReported (g a) := by
  cases x with
  | error fault =>
      exact ⟨fun hreport => absurd hreport (h fault rfl), fun ⟨_, ha, _⟩ => by cases ha⟩
  | ok a =>
      refine ⟨fun hreport => ⟨a, rfl, hreport⟩, ?_⟩
      rintro ⟨_, ha, hreport⟩
      cases ha
      exact hreport

/-! ## The run, and what follows from it -/

/--
How the run of a minimizer ends, unless its request cannot be made; without variables there is
nothing to run.
-/
def course (s : Settings) (m : Method) (minimizer : Minimizer) (p : Problem) (b : VariableBounds)
    (f : Functions) : Except Fault (Conclusion Outcome) :=
  if p.variableCount = 0 then .ok ⟨.ok emptyOutcome, .empty, []⟩
  else (request s m p b).map fun r => (minimizer r).run f .empty

/-- The points that a run asked about, as far as new values are computed there. -/
def Conclusion.newPoints {α : Type} (c : Conclusion α) : List (List Float) :=
  Numeric.newPoints (c.transcript.map (·.1))

namespace Functions

/-- The constraint values that a point is judged by, after a run that asked about some points. -/
def judgedValues (f : Functions) (points : List (List Float)) (x : List Float) :
    Except Fault (List Float) :=
  if repeats points x then (f.lastValues points).elim (.error .nothingCached) .ok
  else f.freshValues x

/-- The objective and the worst violation that a point is judged by. -/
def assessment (f : Functions) (p : Problem) (b : VariableBounds) (points : List (List Float))
    (x : Grid Float) : Except Fault (Float × Float) := do
  let objective ← f.objective x.entries
  let outside ← x.violation b.lower b.upper
  let values ← f.judgedValues points x.entries
  let broken ← (Grid.ofList values).violation p.constraintLower p.constraintUpper
  return (objective, Measure.later outside broken)

end Functions

/-- The result that follows from an outcome, after a run that asked about some points. -/
def concluded (p : Problem) (b : VariableBounds) (f : Functions) (points : List (List Float))
    (o : Outcome) : Except Fault SolverResult := do
  let x ← outcomePoint p o
  let (objective, violation) ← f.assessment p b points x
  match o.message with
  | none => .error (.missingField "message")
  | some _ => .ok ⟨(o.status (f.sign * objective) violation).symbol, objective, x⟩

/-- What a run leads to: its own fault as it is passed on, or what is concluded from its outcome. -/
def Conclusion.ended (m : Method) (p : Problem) (b : VariableBounds) (f : Functions)
    (c : Conclusion Outcome) : Except Fault SolverResult :=
  match c.result with
  | .ok o => concluded p b f c.newPoints o
  | .error fault => .error (runFault m fault)

theorem Dialogue.cache_of_run {α : Type} (f : Functions) (c : ConstraintCache) (d : Dialogue α) :
    (d.run f c).cache = f.cacheAfter c ((d.run f c).transcript.map (·.1)) := by
  induction d generalizing c with
  | finish result => rfl
  | fail fault => rfl
  | ask q next ih => exact ih _ _

theorem cache_of_course {s : Settings} {m : Method} {minimizer : Minimizer} {p : Problem}
    {b : VariableBounds} {f : Functions} {c : Conclusion Outcome}
    (h : course s m minimizer p b f = .ok c) :
    c.cache = ⟨c.newPoints.getLast?, f.lastValues c.newPoints⟩ := by
  unfold course at h
  split at h
  · cases h
    rfl
  · obtain ⟨r, -, rfl⟩ := map_eq_ok.1 h
    rw [Dialogue.cache_of_run, Functions.cacheAfter_empty]
    rfl

theorem minimized_eq (s : Settings) (m : Method) (minimizer : Minimizer) (p : Problem)
    (b : VariableBounds) (f : Functions) (st : SolveState) :
    ∃ st', minimized s m minimizer p b f st =
      match course s m minimizer p b f with
      | .error fault => .error fault st'
      | .ok c =>
        match c.result with
        | .ok o => .ok (o, c.cache) st'
        | .error fault => .error (runFault m fault) st' := by
  unfold minimized course
  split
  · exact ⟨st, rfl⟩
  · cases request s m p b with
    | error fault => exact ⟨st, rfl⟩
    | ok r =>
        refine ⟨{ st with exchange := some ⟨r, ((minimizer r).run f .empty).transcript⟩ }, ?_⟩
        dsimp only [Except.map]
        cases hresult : ((minimizer r).run f .empty).result <;>
          simp only [action_bind_of_ok (ofExcept_eq_ok.2 ⟨rfl, rfl⟩), hresult] <;> rfl

theorem resultOf_judged (m : Method) (p : Problem) (b : VariableBounds) (f : Functions)
    (points : List (List Float)) (o : Outcome) (st : SolveState) :
    resultOf (judged m p b f o ⟨points.getLast?, f.lastValues points⟩ st) =
      concluded p b f points o := by
  have hvalues : ∀ x, (ConstraintCache.valuesAt f.constraints x
      ⟨points.getLast?, f.lastValues points⟩).1 = f.judgedValues points x := by
    intro x
    unfold Functions.judgedValues
    cases hrepeats : repeats points x with
    | true => rw [ConstraintCache.valuesAt_of_holds (holds_eq_repeats.trans hrepeats)]; rfl
    | false => rw [ConstraintCache.valuesAt_of_not_holds (holds_eq_repeats.trans hrepeats)]; rfl
  unfold judged concluded Functions.assessment
  simp only [resultOf_ofExcept_bind, hvalues, bind_assoc, pure_bind]
  refine bind_congr fun x => bind_congr fun objective => bind_congr fun outside =>
    bind_congr fun values => bind_congr fun broken => ?_
  cases o.message <;> rfl

/-- The result of a run and of judging what it returned. -/
theorem resultOf_run (s : Settings) (m : Method) (minimizer : Minimizer) (p : Problem)
    (b : VariableBounds) (f : Functions) (st : SolveState) :
    resultOf ((minimized s m minimizer p b f >>= fun (o, c) => judged m p b f o c) st) =
      course s m minimizer p b f >>= fun c => c.ended m p b f := by
  obtain ⟨st', hrun⟩ := minimized_eq s m minimizer p b f st
  cases hcourse : course s m minimizer p b f with
  | error fault =>
      rw [hcourse] at hrun
      rw [action_bind_of_error hrun]
      rfl
  | ok c =>
      rw [hcourse] at hrun
      show _ = c.ended m p b f
      unfold Conclusion.ended
      cases hresult : c.result with
      | error fault =>
          simp only [hresult] at hrun
          rw [action_bind_of_error hrun]
          rfl
      | ok o =>
          simp only [hresult] at hrun
          rw [action_bind_of_ok hrun, cache_of_course hcourse]
          exact resultOf_judged m p b f _ o st'

/-! ## Requests that cannot be made -/

theorem isNumerical_of_ofGrids {lower upper : Grid Float} {fault : Fault}
    (h : NormalRow.ofGrids lower upper = .error fault) : fault.isNumerical = true := by
  have hsingle : ∀ {shape shape'}, requireSingle shape shape' = .error fault →
      fault.isNumerical = true := by
    intro shape shape' h
    unfold requireSingle at h
    split at h
    · cases h
      rfl
    · split at h <;> cases h <;> rfl
  unfold NormalRow.ofGrids at h
  dsimp only at h
  split at h
  · rcases bind_eq_error.1 h with h | ⟨_, -, h⟩
    · exact hsingle h
    · split at h <;> cases h
      rfl
  · split at h <;> cases h
    rfl

variable {s : Settings} {m : Method} {minimizer : Minimizer} {p : Problem} {b : VariableBounds}
  {f : Functions} {st : SolveState} {points : List (List Float)} {x : Grid Float} {fault : Fault}
  {o : Outcome} {c : Conclusion Outcome} {names : List String}

theorem isReport_runFault_iff (m : Method) (fault : Fault) :
    (runFault m fault).IsReport ↔ fault.isNumerical = true ∨ fault.IsReport := by
  unfold runFault
  split
  · rename_i hnumerical
    exact ⟨fun _ => .inl hnumerical, fun _ => trivial⟩
  · rename_i hnumerical
    exact ⟨.inr, fun h => h.resolve_left hnumerical⟩

/-- Shapes of bounds and start that do not fit are not reported, those of constraints are. -/
theorem course_eq_error (h : course s m minimizer p b f = .error fault) :
    fault = .unevenRange ∨ fault = .unevenShapes [p.warmStart.shape, b.lower.shape, b.upper.shape] ∨
      fault.IsReport := by
  unfold course at h
  split at h
  · cases h
  rw [map_eq_error] at h
  rcases bind_eq_error.1 h with h | ⟨bounds, -, h⟩
  · refine .inl ?_
    unfold givenBounds at h
    split at h
    · split at h <;> cases h
      rfl
    · cases h
  rcases bind_eq_error.1 h with h | ⟨start, -, h⟩
  · exact .inr (.inl (Grid.combineThree_eq_error h))
  have hform := error_of_bind_pure h
  refine .inr (.inr ?_)
  cases hconstraints : constraintForm m p with
  | ok form =>
      rw [hconstraints] at hform
      cases hform
  | error fault' =>
      rw [hconstraints] at hform
      cases hform
      rw [isReport_runFault_iff]
      unfold constraintForm at hconstraints
      split at hconstraints
      · exact .inl (isNumerical_of_ofGrids (map_eq_error.1 hconstraints))
      · split at hconstraints <;> cases hconstraints

/-- If all arrays of a problem are vectors, then a minimizer can be run. -/
theorem exists_course (s : Settings) (m : Method) (minimizer : Minimizer) (f : Functions)
    (hp : p.HasLengths p.variableCount p.constraintCount) (hb : IsBounds p b) :
    ∃ c, course s m minimizer p b f = .ok c := by
  have hlower : b.lower.shape = p.warmStart.shape := by
    rw [hb.lower_shape, hp.variableLower, hp.warmStart]
  have hupper : b.upper.shape = p.warmStart.shape := by
    rw [hb.upper_shape, hp.variableUpper, hp.warmStart]
  obtain ⟨start, hstart, -⟩ := Grid.combineThree_of_shape
    (fun x lower upper => clamp lower upper x) hlower hupper
  have hbounds : ∃ bounds, givenBounds b = .ok bounds := by
    unfold givenBounds
    rw [hlower, hupper, commonShape?_self]
    split <;> exact ⟨_, rfl⟩
  have hform : ∃ form, constraintForm m p = .ok form := by
    unfold constraintForm
    rw [NormalRow.ofGrids_of_vectors hp.constraintLower hp.constraintUpper]
    split
    · exact ⟨_, rfl⟩
    · split <;> exact ⟨_, rfl⟩
  obtain ⟨bounds, hbounds⟩ := hbounds
  obtain ⟨form, hform⟩ := hform
  unfold course request startPoint
  rw [hbounds, hstart, hform]
  split <;> exact ⟨_, rfl⟩

/-! ## What is reported -/

/--
The point of an outcome is an array. If it has one entry for each variable, then objective and
constraints have values there that can be compared with their limits, and there is a message.
-/
def Assessable (p : Problem) (b : VariableBounds) (f : Functions) (points : List (List Float))
    (o : Outcome) : Prop :=
  ∃ x, Grid.ofNested Grid.realEntry o.point = .ok x ∧
    (x.isVector p.variableCount = true →
      (∃ a, f.assessment p b points x = .ok a) ∧ o.message ≠ none)

/--
If no request can be made, then the fault is reported. Else a run ended in a fault that is reported,
or in an outcome that can be assessed.
-/
def Reportable (p : Problem) (b : VariableBounds) (f : Functions) :
    Except Fault (Conclusion Outcome) → Prop
  | .error fault => fault.IsReport
  | .ok c =>
    match c.result with
    | .ok o => Assessable p b f c.newPoints o
    | .error fault => fault.isNumerical = true ∨ fault.IsReport

theorem length_of_judgedValues {values : List Float} {x : List Float}
    (h : f.judgedValues points x = .ok values) : values.length = f.constraints.length := by
  have hfresh : ∀ {x values}, f.freshValues x = .ok values →
      values.length = f.constraints.length := fun h => (mapM_eq_ok.1 h).length_eq.symm
  unfold Functions.judgedValues at h
  split at h
  · cases hlast : f.lastValues points with
    | none =>
        rw [hlast] at h
        cases h
    | some last =>
        rw [hlast] at h
        cases h
        obtain ⟨point, -, hpoint⟩ := List.mem_filterMap.1 (List.mem_of_getLast? hlast)
        exact hfresh (toOption_eq_some.1 hpoint)
  · exact hfresh h

/-- Where the point meets limits of other shapes, it may be impossible to compare them. -/
theorem uneven_of_violation {values lower upper : Grid Float} {n : Nat} {P : Prop}
    (hvalues : values.shape = [n]) (hlower : lower.size = n) (hupper : upper.size = n)
    (hvectors : P → lower.shape = [n] ∧ upper.shape = [n])
    (h : values.violation lower upper = .error fault) :
    (∃ shapes, fault = .unevenShapes shapes) ∧ ¬ P := by
  have hsize : values.size = n := by
    rw [Grid.size, values.filled, hvalues]
    exact Nat.mul_one n
  refine ⟨Grid.violation_eq_error (hlower.trans hsize.symm) (hupper.trans hsize.symm) h,
    fun hP => ?_⟩
  obtain ⟨hlowerShape, hupperShape⟩ := hvectors hP
  rw [Grid.violation_of_shape (hlowerShape.trans hvalues.symm)
        (hupperShape.trans hvalues.symm)] at h
  cases h

/-- Values that are kept may be missing; those computed anew fail as expressions do. -/
theorem Compiles.mayFault (hf : Compiles p f) (hb : IsBounds p b)
    (hx : x.shape = [p.variableCount]) (h : f.assessment p b points x = .error fault) :
    fault = .nothingCached ∨
      (∃ ps : List Int, (∀ q ∈ ps, 1 ≤ q ∧ q ≤ p.variableCount) ∧
        Expr.MayFault ps x.entries fault) ∨
      (∃ shapes, fault = .unevenShapes shapes) ∧
        ¬ p.HasLengths p.variableCount p.constraintCount := by
  rcases bind_eq_error.1 h with h | ⟨y, -, h⟩
  · obtain ⟨e, -, hcompile, hpositions⟩ := hf.objective
    exact .inr (.inl ⟨e.positions, hpositions, Expr.mayFault_of_compile e hcompile h⟩)
  rcases bind_eq_error.1 h with h | ⟨outside, -, h⟩
  · refine .inr (.inr (uneven_of_violation hx ?_ ?_ (fun hp => ⟨?_, ?_⟩) h))
    · rw [Grid.size, hb.lower_entries, length_lowerBounds]
    · rw [Grid.size, hb.upper_entries, length_upperBounds]
    · rw [hb.lower_shape, hp.variableLower]
    · rw [hb.upper_shape, hp.variableUpper]
  rcases bind_eq_error.1 h with h | ⟨values, hvalues, h⟩
  · unfold Functions.judgedValues at h
    split at h
    · cases hlast : f.lastValues points with
      | some values =>
          rw [hlast] at h
          cases h
      | none =>
          rw [hlast] at h
          cases h
          exact .inl rfl
    · obtain ⟨g, hg, hvalue⟩ := exists_of_mapM_error h
      obtain ⟨i, hi, rfl⟩ := List.getElem_of_mem hg
      obtain ⟨e, -, hcompile, hpositions⟩ := (List.forall₂_iff_get.1 hf.constraints).2 i
        (by rwa [hf.constraints.length_eq]) hi
      exact .inr (.inl ⟨e.positions, hpositions, Expr.mayFault_of_compile e hcompile hvalue⟩)
  · have hlength := (length_of_judgedValues hvalues).trans hf.length_constraints
    exact .inr (.inr (uneven_of_violation (congrArg (fun n => [n]) hlength) p.constraintLower_size
      p.constraintUpper_size (fun hp => ⟨hp.constraintLower, hp.constraintUpper⟩)
      (error_of_bind_pure h)))

theorem Compiles.isUnusable (hf : Compiles p f) (hb : IsBounds p b)
    (hx : x.shape = [p.variableCount]) (h : f.assessment p b points x = .error fault) :
    fault.IsUnusable := by
  rcases hf.mayFault hb hx h with rfl | ⟨ps, -, h⟩ | ⟨⟨shapes, rfl⟩, -⟩
  · trivial
  · exact h.isUnusable
  · trivial

/-- At a point of the problem, sums and kept values can be missing, and shapes may not fit. -/
theorem Compiles.fault_of_assessment (hf : Compiles p f) (hb : IsBounds p b)
    (hx : x.shape = [p.variableCount]) (hlimit : p.variableCount ≤ indexLimit)
    (h : f.assessment p b points x = .error fault) :
    fault = .sumOverflow ∨ fault = .sumConflict ∨ fault = .nothingCached ∨
      (∃ shapes, fault = .unevenShapes shapes) ∧
        ¬ p.HasLengths p.variableCount p.constraintCount := by
  have hlength : x.entries.length = p.variableCount := by
    rw [x.filled, hx]
    exact Nat.mul_one _
  rcases hf.mayFault hb hx h with h | ⟨ps, hps, h⟩ | h
  · exact .inr (.inr (.inl h))
  · rw [← hlength] at hps hlimit
    exact (h.of_positions hps hlimit).imp_right .inl
  · exact .inr (.inr (.inr h))

theorem isReported_concluded_iff (hf : Compiles p f) (hb : IsBounds p b) :
    IsReported (concluded p b f points o) ↔ Assessable p b f points o := by
  unfold concluded outcomePoint Assessable
  rw [bind_assoc, isReported_bind_iff fun _ h => (Grid.isUnusable_of_ofNested h).not_isReport]
  refine exists_congr fun x => and_congr_right fun _ => ?_
  by_cases hvector : x.isVector p.variableCount = true
  · rw [if_pos hvector, pure_bind, isReported_bind_iff fun _ h =>
      (hf.isUnusable hb (eq_of_beq hvector) h).not_isReport]
    simp only [hvector, true_imp_iff]
    cases o.message with
    | none => simp [IsReported, Fault.IsReport]
    | some message => simp [IsReported]
  · rw [if_neg hvector]
    exact ⟨fun _ h => absurd h hvector, fun _ => trivial⟩

/-- After its checks, a solve goes on to compile the functions. -/
theorem solve_of_checks (hfeatures : m.checkFeatures p = .ok ())
    (hbounds : checkedBounds m p = .ok b) : solve s m minimizer p st =
      (queried (functions p) >>= fun f => minimized s m minimizer p b f >>= fun (o, c) =>
        judged m p b f o c) st := by
  unfold solve
  rw [action_bind_of_ok (ofExcept_eq_ok.2 ⟨hfeatures, rfl⟩),
    action_bind_of_ok (ofExcept_eq_ok.2 ⟨hbounds, rfl⟩)]

theorem resultOf_queried {α : Type} (query : EvaluatorM α) (st : SolveState) :
    resultOf (queried query st) = resultOf (query st.evaluator) := by
  unfold queried
  cases query st.evaluator <;> rfl

/-- The result of a solve that passes its checks. -/
theorem resultOf_solve (hfeatures : m.checkFeatures p = .ok ())
    (hbounds : checkedBounds m p = .ok b) (hst : p.evaluator.Queried st.evaluator) :
    resultOf (solve s m minimizer p st) = answeredFunctions p >>= fun f =>
      course s m minimizer p b f >>= fun c => c.ended m p b f := by
  rw [solve_of_checks hfeatures hbounds]
  refine resultOf_bind ((resultOf_queried _ _).trans (resultOf_functions hst)) fun f st' _ => ?_
  exact resultOf_run s m minimizer p b f st'

/-- The result of a solve, once the functions are compiled. -/
theorem resultOf_solve_of_offered (hfeatures : m.checkFeatures p = .ok ())
    (hbounds : checkedBounds m p = .ok b) (hf : Compiles p f)
    (hst : p.evaluator.Queried st.evaluator) (hnames : p.evaluator.offered = .ok names)
    (hoffered : expressionGraphs ∈ names) : resultOf (solve s m minimizer p st) =
      course s m minimizer p b f >>= fun c => c.ended m p b f := by
  rw [resultOf_solve hfeatures hbounds hst, hf.answeredFunctions_eq hnames hoffered]
  rfl

theorem isReported_course_iff (hf : Compiles p f) (hb : IsBounds p b) :
    IsReported (course s m minimizer p b f >>= fun c => c.ended m p b f) ↔
      Reportable p b f (course s m minimizer p b f) := by
  cases course s m minimizer p b f with
  | error fault => rfl
  | ok c =>
      show IsReported (c.ended m p b f) ↔ _
      cases hresult : c.result with
      | ok o =>
          simp only [Conclusion.ended, Reportable, hresult]
          exact isReported_concluded_iff hf hb
      | error fault =>
          simp only [Conclusion.ended, Reportable, hresult]
          exact isReport_runFault_iff m fault

/--
What a solve leads to that passes its checks, with an evaluator that gives expressions that compile.
-/
structure Reports (s : Settings) (m : Method) (minimizer : Minimizer) (p : Problem)
    (b : VariableBounds) (f : Functions) (result : Except Fault SolverResult) : Prop where
  /-- Numerical faults are reported if the run ends with them. -/
  run : ∀ c fault, course s m minimizer p b f = .ok c → c.result = .error fault →
    fault.isNumerical = true →
      result = .error (.solverFailure ("SciPy " ++ m.name ++ " failed: " ++ fault.message))
  /-- The fault itself comes through if a point cannot be assessed, though it is one of sums. -/
  point : ∀ c o x fault, course s m minimizer p b f = .ok c → c.result = .ok o →
    outcomePoint p o = .ok x → f.assessment p b c.newPoints x = .error fault →
      result = .error fault ∧ (p.variableCount ≤ indexLimit →
        fault = .sumOverflow ∨ fault = .sumConflict ∨ fault = .nothingCached ∨
          (∃ shapes, fault = .unevenShapes shapes) ∧
            ¬ p.HasLengths p.variableCount p.constraintCount)
  /-- Bounds or a start that cannot be made are not reported; vectors always fit. -/
  request : ∀ fault, course s m minimizer p b f = .error fault → result = .error fault ∧
    (fault = .unevenRange ∨
      fault = .unevenShapes [p.warmStart.shape, b.lower.shape, b.upper.shape] ∨ fault.IsReport) ∧
    ¬ p.HasLengths p.variableCount p.constraintCount

theorem reports_of_offered (hfeatures : m.checkFeatures p = .ok ())
    (hbounds : checkedBounds m p = .ok b) (hf : Compiles p f)
    (hst : p.evaluator.Queried st.evaluator) (hnames : p.evaluator.offered = .ok names)
    (hoffered : expressionGraphs ∈ names) :
    Reports s m minimizer p b f (resultOf (solve s m minimizer p st)) := by
  have hb := (variableBounds_eq_ok (checkedBounds_eq_ok.1 hbounds).1).2
  rw [resultOf_solve_of_offered hfeatures hbounds hf hst hnames hoffered]
  refine ⟨fun c fault hcourse hresult hnumerical => ?_,
    fun c o x fault hcourse hresult hx hassessment => ⟨?_, fun hlimit => ?_⟩,
    fun fault hcourse => ⟨?_, course_eq_error hcourse, fun hp => ?_⟩⟩
  · rw [hcourse]
    show c.ended m p b f = _
    rw [Conclusion.ended, hresult]
    simp only [runFault, hnumerical, ↓reduceIte]
  · rw [hcourse]
    show c.ended m p b f = _
    rw [Conclusion.ended, hresult]
    exact bind_eq_error.2 (.inr ⟨x, hx, bind_eq_error.2 (.inl hassessment)⟩)
  · exact hf.fault_of_assessment hb (shape_of_outcomePoint hx) hlimit hassessment
  · rw [hcourse]
    rfl
  · obtain ⟨c, hc⟩ := exists_course s m minimizer f hp hb
    cases hcourse.symm.trans hc

/--
A solve returns a result or reports a failure exactly if its evaluator does, its request can be made
or fails with a report, its run does not end in a fault of another kind, and the outcome, if there
is one, can be assessed.
-/
theorem isReported_solve_iff (hfeatures : m.checkFeatures p = .ok ())
    (hbounds : checkedBounds m p = .ok b) (hf : Compiles p f)
    (hst : p.evaluator.Queried st.evaluator) :
    (IsReported (resultOf (solve s m minimizer p st)) ↔
      match p.evaluator.offered with
      | .error fault => fault.IsReport
      | .ok names => expressionGraphs ∈ names →
          Reportable p b f (course s m minimizer p b f)) ∧
    ∀ names, p.evaluator.offered = .ok names → expressionGraphs ∈ names →
      Reports s m minimizer p b f (resultOf (solve s m minimizer p st)) := by
  refine ⟨?_, fun names => reports_of_offered hfeatures hbounds hf hst⟩
  cases hnames : p.evaluator.offered with
  | error fault =>
      rw [resultOf_solve hfeatures hbounds hst, answeredFunctions, hnames]
      rfl
  | ok names =>
      by_cases hoffered : expressionGraphs ∈ names
      · rw [resultOf_solve_of_offered hfeatures hbounds hf hst hnames hoffered]
        simp only [hoffered, true_imp_iff]
        exact isReported_course_iff hf
          (variableBounds_eq_ok (checkedBounds_eq_ok.1 hbounds).1).2
      · refine iff_of_true ?_ fun h => absurd h hoffered
        rw [resultOf_solve hfeatures hbounds hst, answeredFunctions, hnames]
        show IsReported ((if _ then _ else _) >>= _)
        rw [if_pos hoffered]
        trivial

/-- A model of one variable whose inverse is added to its negative. -/
def inverses : Model :=
  Model.empty.performAll [.addVariable, .setBlock (some
    ⟨.ofExprs 0 (some (.sum [.binary .div (.constant 1) (.reference ⟨1⟩),
      .binary .div (.constant (-1)) (.reference ⟨1⟩)])) [] [expressionGraphs], [], true⟩)]

/-- A minimizer that evaluates the objective at a point and then ends as told by the reply. -/
def probing (point : List Float) (next : Reply → Dialogue Outcome) : Minimizer := fun _ =>
  .ask (.objective point) next

def success (point : List Float) : Outcome :=
  ⟨.list (point.map .float), some (.bool true), some (.text "")⟩

/-- At one, the objective is zero. -/
theorem isReported_inverses :
    ∃ p b f, inverses.problem = .ok p ∧ Method.slsqp.checkFeatures p = .ok () ∧
      checkedBounds .slsqp p = .ok b ∧ Compiles p f ∧ p.evaluator.Queried .initial ∧
      p.evaluator.offered = .ok [expressionGraphs] ∧
      IsReported (resultOf (solve .default .slsqp (probing [1] fun _ => .finish (success [1])) p
        ⟨.initial, [], none⟩)) ∧
      Reportable p b f
        (course .default .slsqp (probing [1] fun _ => .finish (success [1])) p b f) := by
  obtain ⟨p, b, f, hp, hfeatures, hbounds, hf, hoffered, hreported⟩ : ∃ p b f,
      inverses.problem = .ok p ∧ Method.slsqp.checkFeatures p = .ok () ∧
      checkedBounds .slsqp p = .ok b ∧ Compiles p f ∧
      p.evaluator.offered = .ok [expressionGraphs] ∧
      IsReported (resultOf (solve .default .slsqp (probing [1] fun _ => .finish (success [1])) p
        ⟨.initial, [], none⟩)) := by
    refine ⟨_, _, ⟨_, [], _, _⟩, rfl, rfl, rfl, ⟨⟨_, rfl, rfl, ?_⟩, .nil, rfl, rfl⟩, rfl, ?_⟩
    · decide
    · exact isReported_of_ok rfl
  have hst : p.evaluator.Queried .initial := .fresh []
  have hreportable := (isReported_solve_iff hfeatures hbounds hf hst).1.1 hreported
  rw [hoffered] at hreportable
  exact ⟨p, b, f, hp, hfeatures, hbounds, hf, hst, hoffered, hreported,
    hreportable (List.mem_singleton_self _)⟩

/-- At zero, it is the sum of two infinities: reported if met while the minimizer runs, else not. -/
theorem not_isReported_inverses :
    ∃ p b f, inverses.problem = .ok p ∧ Method.slsqp.checkFeatures p = .ok () ∧
      checkedBounds .slsqp p = .ok b ∧ Compiles p f ∧
      resultOf (solve .default .slsqp (probing [0] fun
        | .error fault => .fail fault
        | .ok _ => .finish (success [0])) p ⟨.initial, [], none⟩) =
          .error (.solverFailure "SciPy slsqp failed: -inf + inf in fsum") ∧
      resultOf (solve .default .slsqp (probing [1] fun _ => .finish (success [0])) p
        ⟨.initial, [], none⟩) = .error .sumConflict ∧
      ¬ IsReported (resultOf (solve .default .slsqp (probing [1] fun _ => .finish (success [0])) p
        ⟨.initial, [], none⟩)) := by
  refine ⟨_, _, ⟨_, [], _, _⟩, rfl, rfl, rfl, ⟨⟨_, rfl, rfl, ?_⟩, .nil, rfl, rfl⟩, rfl, rfl, ?_⟩
  · decide
  · exact id

end Numeric

end Extremum
