import Extremum.Problem.Assembly
import Extremum.Proofs.Model.Edit
import Extremum.Proofs.Numeric.Cache
import Extremum.Proofs.Numeric.Solve
import Extremum.Proofs.Numeric.Tolerance
import Extremum.Proofs.Problem.Normalized

/-!
# What an optimal status says

The point of an optimal result is feasible up to the tolerance unless the measure of violations is
blind to it: because a value is NaN, because an infinite limit is on the wrong side, because a
distance is rounded, or because the values of the constraints belong to an equal point whose zeros
have other signs. The measure is blind to nothing else.
-/

namespace Extremum.Numeric

open Number Extremum.Measure

/-! ## Points -/

/-- How far a point lies outside the bounds of variables and of constraints, entry by entry. -/
def pointViolation (p : Problem) (x values : List Float) : Float :=
  later (violation x (lowerBounds p) (upperBounds p))
    (violation values p.constraintLower.entries p.constraintUpper.entries)

/-- A relation holds between the bounds of a problem and what they bound. -/
def EachRange (P : Float × Float → Float → Prop) (p : Problem) (x values : List Float) : Prop :=
  List.Forall₂ P ((lowerBounds p).zip (upperBounds p)) x ∧
    List.Forall₂ P (p.constraintLower.entries.zip p.constraintUpper.entries) values

/-- The constraints have values at a point, and with them it is feasible up to the tolerance. -/
def FeasibleAt (p : Problem) (f : Functions) (point : List Float) : Prop :=
  ∃ values, f.constraints.mapM (· point) = .ok values ∧ EachRange NearlyWithin p point values

/--
The constraints have values at a point that can be judged. If the values that are kept belong to
another point, equal but for the signs of zeros, then no violation is found with the right ones.
-/
def JudgeableAt (p : Problem) (f : Functions) (cache : ConstraintCache) (point : List Float) :
    Prop :=
  ∃ values, f.constraints.mapM (· point) = .ok values ∧ EachRange Judgeable p point values ∧
    (cache.holds point = true → cache.point ≠ some point →
      ¬ feasibilityTolerance < pointViolation p point values)

theorem forall₂_nearlyWithin_iff {values lower upper : List Float}
    (hlower : lower.length = values.length) (hupper : upper.length = values.length) :
    List.Forall₂ NearlyWithin (lower.zip upper) values ↔
      List.Forall₂ Judgeable (lower.zip upper) values ∧
        violation values lower upper ≤ feasibilityTolerance := by
  have hworst := fun h : List.Forall₂ Judgeable (lower.zip upper) values =>
    violation_le_iff hlower hupper (h.imp fun _ _ => Judgeable.comparable)
      zero_le_feasibilityTolerance
  constructor
  · intro h
    have hjudgeable := h.imp fun _ _ hw => (nearlyWithin_iff.1 hw).1
    exact ⟨hjudgeable, (hworst hjudgeable).2 (h.imp fun _ _ hw => (nearlyWithin_iff.1 hw).2)⟩
  · rintro ⟨hjudgeable, hle⟩
    exact List.Forall₂.mp (fun _ _ hj ht => nearlyWithin_iff.2 ⟨hj, ht⟩) hjudgeable
      ((hworst hjudgeable).1 hle)

theorem isNaN_of_judgeable {ranges : List (Float × Float)} {values : List Float}
    (h : List.Forall₂ Judgeable ranges values) : ∀ v ∈ values, v.isNaN = false := by
  induction h with
  | nil => exact fun v hv => nomatch hv
  | cons hfirst _ ih => exact List.forall_mem_cons.2 ⟨hfirst.isNaN, ih⟩

/-- The worst of all distances is a number, and it is tolerated if and only if each of them is. -/
theorem worst_le_iff {values lower upper below above : Grid Float}
    (hvalues : ∀ v ∈ values.entries, v.isNaN = false)
    (hbelow : lower.combine shortfall values = .ok below) (hbelowNe : below.entries ≠ [])
    (habove : values.combine excess upper = .ok above) (haboveNe : above.entries ≠ []) :
    (later (later (greatest below.entries) (greatest above.entries)) zero).isNaN = false ∧
      (later (later (greatest below.entries) (greatest above.entries)) zero ≤
          feasibilityTolerance ↔
        (∀ d ∈ below.entries, d ≤ feasibilityTolerance) ∧
          ∀ d ∈ above.entries, d ≤ feasibilityTolerance) := by
  have hbelowNumbers : ∀ d ∈ below.entries, d.isNaN = false := by
    intro d hd
    obtain ⟨l, -, v, hv, rfl⟩ := Grid.exists_of_mem_combine hbelow hd
    exact shortfall_isNaN (hvalues v hv)
  have haboveNumbers : ∀ d ∈ above.entries, d.isNaN = false := by
    intro d hd
    obtain ⟨v, hv, u, -, rfl⟩ := Grid.exists_of_mem_combine habove hd
    exact excess_isNaN (hvalues v hv)
  have hbelowNumber := greatest_isNaN hbelowNumbers
  have haboveNumber := greatest_isNaN haboveNumbers
  refine ⟨later_isNaN (later_isNaN hbelowNumber haboveNumber) rfl, ?_⟩
  rw [later_le_iff (later_isNaN hbelowNumber haboveNumber) rfl,
    later_le_iff hbelowNumber haboveNumber, greatest_le_iff hbelowNe hbelowNumbers,
    greatest_le_iff haboveNe haboveNumbers]
  exact and_iff_left zero_le_feasibilityTolerance

/-- A vector of values meets as many limits entry by entry, however these are arranged. -/
theorem samePlacesMeet_limits {values limits : Grid Float} {n : Nat} {common : List Nat}
    (hvalues : values.shape = [n]) (hn : n ≠ 0) (hlimits : limits.size = n)
    (hcommon : commonShape? limits.shape values.shape = some common) :
    SamePlacesMeet limits.shape values.shape := by
  rw [hvalues] at hcommon ⊢
  exact samePlacesMeet_vector (limits.filled.symm.trans hlimits) hn hcommon

/--
Where values are compared with more limits than their own, they are compared with their own, too. So
if no violation is found, then there is none of their own limits.
-/
theorem violation_le_of_grids {values lower upper : Grid Float} {worst : Float} {n : Nat}
    (hvalues : values.shape = [n]) (hlower : lower.size = n) (hupper : upper.size = n)
    (h : List.Forall₂ Judgeable (lower.entries.zip upper.entries) values.entries)
    (hworst : values.violation lower upper = .ok worst) :
    worst.isNaN = false ∧ (worst ≤ feasibilityTolerance →
      violation values.entries lower.entries upper.entries ≤ feasibilityTolerance) := by
  have hcount : values.entries.length = n := by
    rw [values.filled, hvalues]
    exact Nat.mul_one n
  by_cases hempty : values.entries = []
  · rw [Grid.violation, hempty] at hworst
    cases hworst
    rw [hempty]
    exact ⟨rfl, fun hle => hle⟩
  have hn : n ≠ 0 := fun hzero =>
    hempty (List.eq_nil_of_length_eq_zero (hcount.trans hzero))
  obtain ⟨below, above, hbelow, habove, hbelowNe, haboveNe, rfl⟩ :=
    (Grid.violation_eq_ok hempty).1 hworst
  obtain ⟨hnumber, hle⟩ := worst_le_iff (isNaN_of_judgeable h) hbelow hbelowNe habove haboveNe
  refine ⟨hnumber, fun htolerated => ?_⟩
  obtain ⟨hbelowLe, haboveLe⟩ := hle.1 htolerated
  have hmeetLower : SamePlacesMeet lower.shape values.shape :=
    samePlacesMeet_limits hvalues hn hlower (Grid.combine_eq_ok hbelow).1
  have hmeetUpper : SamePlacesMeet values.shape upper.shape :=
    (samePlacesMeet_limits hvalues hn hupper
      ((commonShape?_comm _ _).trans (Grid.combine_eq_ok habove).1)).symm
  rw [violation_le_iff (hlower.trans hcount.symm) (hupper.trans hcount.symm)
    (h.imp fun _ _ => Judgeable.comparable) zero_le_feasibilityTolerance,
    List.forall₂_iff_get]
  refine ⟨h.length_eq, fun i hi hi' => ?_⟩
  rw [List.length_zip] at hi
  have hl : lower.entries[i]? = some lower.entries[i] := List.getElem?_eq_getElem (by omega)
  have hu : upper.entries[i]? = some upper.entries[i] := List.getElem?_eq_getElem (by omega)
  have hv : values.entries[i]? = some values.entries[i] := List.getElem?_eq_getElem (by omega)
  simp only [List.get_eq_getElem, List.getElem_zip]
  exact ⟨hbelowLe _ (Grid.mem_combine_of_samePlacesMeet hmeetLower hbelow hl hv),
    haboveLe _ (Grid.mem_combine_of_samePlacesMeet hmeetUpper habove hv hu)⟩

variable {p : Problem} {point values : List Float}

theorem pointViolation_tolerated_iff (hpoint : point.length = p.variableCount)
    (hvalues : values.length = p.constraintCount) (h : EachRange Judgeable p point values) :
    ¬ feasibilityTolerance < pointViolation p point values ↔
      violation point (lowerBounds p) (upperBounds p) ≤ feasibilityTolerance ∧
        violation values p.constraintLower.entries p.constraintUpper.entries ≤
          feasibilityTolerance := by
  have hx := violation_isNaN ((length_lowerBounds p).trans hpoint.symm)
    ((length_upperBounds p).trans hpoint.symm) (h.1.imp fun _ _ => Judgeable.comparable)
  have hv := violation_isNaN (p.constraintLower_size.trans hvalues.symm)
    (p.constraintUpper_size.trans hvalues.symm) (h.2.imp fun _ _ => Judgeable.comparable)
  rw [pointViolation, not_lt rfl (later_isNaN hx hv), later_le_iff hx hv]

theorem eachRange_nearlyWithin_iff (hpoint : point.length = p.variableCount)
    (hvalues : values.length = p.constraintCount) :
    EachRange NearlyWithin p point values ↔ EachRange Judgeable p point values ∧
      ¬ feasibilityTolerance < pointViolation p point values := by
  have hbounds := forall₂_nearlyWithin_iff ((length_lowerBounds p).trans hpoint.symm)
    ((length_upperBounds p).trans hpoint.symm)
  have hlimits := forall₂_nearlyWithin_iff (p.constraintLower_size.trans hvalues.symm)
    (p.constraintUpper_size.trans hvalues.symm)
  constructor
  · rintro ⟨hx, hv⟩
    obtain ⟨hxj, hxle⟩ := hbounds.1 hx
    obtain ⟨hvj, hvle⟩ := hlimits.1 hv
    exact ⟨⟨hxj, hvj⟩, (pointViolation_tolerated_iff hpoint hvalues ⟨hxj, hvj⟩).2 ⟨hxle, hvle⟩⟩
  · rintro ⟨hjudgeable, hreported⟩
    obtain ⟨hxle, hvle⟩ := (pointViolation_tolerated_iff hpoint hvalues hjudgeable).1 hreported
    exact ⟨hbounds.2 ⟨hjudgeable.1, hxle⟩, hlimits.2 ⟨hjudgeable.2, hvle⟩⟩

/-! ## Solves -/

variable {s : Settings} {m : Method} {minimizer : Minimizer} {b : VariableBounds} {f : Functions}
  {e e' : EvaluatorState} {st st' : SolveState} {outcome : Outcome} {cache : ConstraintCache}
  {r : SolverResult}

theorem length_constraints_of_functions (h : functions p e = .ok f e') :
    f.constraints.length = p.constraintCount := by
  obtain ⟨e₁, e₂, -, hconstraints, -⟩ := functions_eq_ok h
  rw [length_of_action_mapM hconstraints, List.length_range]

theorem sound_of_minimized (h : minimized s m minimizer p b f st = .ok (outcome, cache) st') :
    cache.Sound f.constraints := by
  unfold minimized at h
  split at h
  · cases h
    exact .empty
  · obtain ⟨request, st₁, -, h⟩ := action_bind_eq_ok.1 h
    obtain ⟨_, st₂, -, h⟩ := action_bind_eq_ok.1 h
    have hsound := (minimizer request).sound_run (f := f) ConstraintCache.Sound.empty
    cases hresult : ((minimizer request).run f .empty).result with
    | error fault =>
        rw [hresult] at h
        cases h
    | ok result =>
        rw [hresult] at h
        cases h
        exact hsound

theorem not_violated_of_optimal {objective violation : Float}
    (h : (outcome.status objective violation).symbol = SolverStatus.optimal.symbol) :
    ¬ feasibilityTolerance < violation := by
  unfold Outcome.status at h
  intro hviolated
  split at h
  · exact absurd h (by decide)
  split at h
  · exact absurd h (by decide)
  split at h
  · exact absurd h (by decide)
  · exact absurd h (by decide)

/-- Of the values that are judged in an optimal result, none is found to be violated. -/
theorem values_of_judged (h : judged m p b f outcome cache st = .ok r st')
    (hoptimal : r.status = SolverStatus.optimal.symbol) :
    r.primal.shape = [p.variableCount] ∧ ∃ outside values broken,
      r.primal.violation b.lower b.upper = .ok outside ∧
      (cache.valuesAt f.constraints r.primal.entries).1 = .ok values ∧
      (Grid.ofList values).violation p.constraintLower p.constraintUpper = .ok broken ∧
        ¬ feasibilityTolerance < later outside broken := by
  obtain ⟨hx, -, outside, values, broken, houtside, hvalues, hbroken, hstatus⟩ := judged_eq_ok h
  rw [hstatus] at hoptimal
  exact ⟨shape_of_outcomePoint hx, outside, values, broken, houtside, hvalues, hbroken,
    not_violated_of_optimal hoptimal⟩

/-- If no violation is found among all that is compared, then entry by entry there is none. -/
theorem not_violated_of_grids {x : Grid Float} {outside broken : Float} (hb : IsBounds p b)
    (hx : x.shape = [p.variableCount]) (hvalues : values.length = p.constraintCount)
    (houtside : x.violation b.lower b.upper = .ok outside)
    (hbroken : (Grid.ofList values).violation p.constraintLower p.constraintUpper = .ok broken)
    (h : ¬ feasibilityTolerance < later outside broken)
    (hjudgeable : EachRange Judgeable p x.entries values) :
    ¬ feasibilityTolerance < pointViolation p x.entries values := by
  have hpoint : x.entries.length = p.variableCount := by
    rw [x.filled, hx]
    exact Nat.mul_one _
  have hlower : b.lower.size = p.variableCount := by
    rw [Grid.size, hb.lower_entries, length_lowerBounds]
  have hupper : b.upper.size = p.variableCount := by
    rw [Grid.size, hb.upper_entries, length_upperBounds]
  have hranges : List.Forall₂ Judgeable (b.lower.entries.zip b.upper.entries) x.entries := by
    rw [hb.lower_entries, hb.upper_entries]
    exact hjudgeable.1
  obtain ⟨hnumber, hle⟩ := violation_le_of_grids hx hlower hupper hranges houtside
  obtain ⟨hnumber', hle'⟩ := violation_le_of_grids (congrArg (fun n => [n]) hvalues)
    p.constraintLower_size p.constraintUpper_size hjudgeable.2 hbroken
  rw [not_lt rfl (later_isNaN hnumber hnumber'), later_le_iff hnumber hnumber'] at h
  rw [pointViolation_tolerated_iff hpoint hvalues hjudgeable, ← hb.lower_entries,
    ← hb.upper_entries]
  exact ⟨hle h.1, hle' h.2⟩

/-! ## Optimal results -/

/--
The point of an optimal result is feasible up to the tolerance if and only if the measure of
violations is not blind to it, whatever the minimizer asked for and returned.
-/
theorem feasibleAt_iff_of_optimal (h : solve s m minimizer p st = .ok r st')
    (hoptimal : r.status = SolverStatus.optimal.symbol) :
    ∃ b f e outcome cache st₁, variableBounds p = .ok b ∧ functions p st.evaluator = .ok f e ∧
      minimized s m minimizer p b f { st with evaluator := e } = .ok (outcome, cache) st₁ ∧
      (FeasibleAt p f r.primal.entries ↔ JudgeableAt p f cache r.primal.entries) := by
  obtain ⟨b, f, e, outcome, cache, st₁, hbounds, hf, hminimized, hjudged⟩ := solve_eq_ok h
  have hb := (checkedBounds_eq_ok.1 hbounds).1
  refine ⟨b, f, e, outcome, cache, st₁, hb, hf, hminimized, ?_⟩
  have hsound := sound_of_minimized hminimized
  obtain ⟨hshape, outside, seen, broken, houtside, hseen, hbroken, hquiet⟩ :=
    values_of_judged hjudged hoptimal
  have hpoint : r.primal.entries.length = p.variableCount := by
    rw [r.primal.filled, hshape]
    exact Nat.mul_one _
  have hlength : ∀ values, f.constraints.mapM (· r.primal.entries) = .ok values →
      values.length = p.constraintCount := by
    intro values hvalues
    rw [← length_constraints_of_functions hf, (mapM_eq_ok.1 hvalues).length_eq]
  constructor
  · rintro ⟨values, hvalues, hwithin⟩
    obtain ⟨hjudgeable, hreported⟩ :=
      (eachRange_nearlyWithin_iff hpoint (hlength values hvalues)).1 hwithin
    exact ⟨values, hvalues, hjudgeable, fun _ _ => hreported⟩
  · rintro ⟨values, hvalues, hjudgeable, hother⟩
    refine ⟨values, hvalues, ?_⟩
    refine (eachRange_nearlyWithin_iff hpoint (hlength values hvalues)).2 ⟨hjudgeable, ?_⟩
    -- the values judged are those at the point, or were kept for an equal one
    rcases hsound.eq_or_holds hseen hvalues with rfl | ⟨hholds, hne⟩
    · exact not_violated_of_grids (variableBounds_eq_ok hb).2 hshape (hlength _ hvalues) houtside
        hbroken hquiet hjudgeable
    · exact hother hholds hne

/-- A model of one variable whose ratio to itself must be at least one. -/
def selfRatio : Model :=
  Model.empty.performAll [.addVariable, .setBlock (some
    ⟨.ofExprs 0 none [.binary .div (.reference ⟨1⟩) (.reference ⟨1⟩)] [expressionGraphs],
      [(1, 1.0 / 0.0)], false⟩)]

/-- A minimizer that claims success at a point without any question. -/
def claiming (point : List Float) : Minimizer := fun _ =>
  .finish ⟨.list (point.map .float), some (.bool true), some (.text "")⟩

/-- At two, the ratio is one. -/
theorem feasibleAt_selfRatio :
    ∃ p r st', selfRatio.problem = .ok p ∧
      solve .default .slsqp (claiming [2]) p ⟨.initial, [], none⟩ = .ok r st' ∧
      r.status = SolverStatus.optimal.symbol ∧ r.primal.entries = [2] ∧
      ∃ b f e outcome cache st₁, variableBounds p = .ok b ∧ functions p .initial = .ok f e ∧
        minimized .default .slsqp (claiming [2]) p b f ⟨e, [], none⟩ = .ok (outcome, cache) st₁ ∧
        FeasibleAt p f [2] ∧ JudgeableAt p f cache [2] := by
  obtain ⟨p, r, st', hp, hsolve, hstatus, hpoint⟩ : ∃ p r st', selfRatio.problem = .ok p ∧
      solve .default .slsqp (claiming [2]) p ⟨.initial, [], none⟩ = .ok r st' ∧
      r.status = SolverStatus.optimal.symbol ∧ r.primal.entries = [2] :=
    ⟨_, _, _, rfl, rfl, by decide +kernel, rfl⟩
  refine ⟨p, r, st', hp, hsolve, hstatus, hpoint, ?_⟩
  obtain ⟨b, f, e, outcome, cache, st₁, hb, hf, hminimized, hiff⟩ :=
    feasibleAt_iff_of_optimal hsolve hstatus
  rw [hpoint] at hiff
  have hfeasible : FeasibleAt p f [2] := by
    cases hp
    cases hf
    refine ⟨[1], rfl, ?_, ?_⟩
    · refine .cons ⟨?_, ?_⟩ .nil
      · exact (nearlyAtMost_of_infinite (.inl rfl)).2 (by decide)
      · exact (nearlyAtMost_of_infinite (.inr rfl)).2 (by decide)
    · refine .cons ⟨?_, ?_⟩ .nil
      · exact nearlyAtMost_self rfl
      · exact (nearlyAtMost_of_infinite (.inr rfl)).2 (by decide)
  exact ⟨b, f, e, outcome, cache, st₁, hb, hf, hminimized, hfeasible, hiff.1 hfeasible⟩

/-- At zero, the ratio is NaN, and the point still counts as optimal. -/
theorem not_feasibleAt_selfRatio :
    ∃ p r st' f e, selfRatio.problem = .ok p ∧
      solve .default .slsqp (claiming [0]) p ⟨.initial, [], none⟩ = .ok r st' ∧
      r.status = SolverStatus.optimal.symbol ∧ functions p .initial = .ok f e ∧
      ¬ FeasibleAt p f r.primal.entries := by
  refine ⟨_, _, _, _, _, rfl, rfl, rfl, rfl, ?_⟩
  rintro ⟨values, hvalues, -, hwithin⟩
  cases hvalues
  obtain ⟨⟨hlower, -⟩, -⟩ := List.forall₂_cons.1 hwithin
  exact Bool.noConfusion (isNaN_of_nearlyAtMost_right hlower)

end Extremum.Numeric
