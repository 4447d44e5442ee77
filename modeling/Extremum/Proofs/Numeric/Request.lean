import Extremum.Proofs.Grid.Stretch
import Extremum.Proofs.Numeric.Exchange
import Extremum.Proofs.Numeric.Verdict
import Extremum.Proofs.Problem.Normalized

/-!
# What a minimizer is given

Whatever reaches a minimizer has passed the check of features, and holds all of the problem: the
discrete variables, every finite bound, every constraint, and the start moved into the bounds. The
replies to its questions are the values of the objective and of the constraints of the problem.
-/

namespace Extremum

/-! ## Starts -/

namespace Measure

open Number

variable {lower upper x : Float}

/-- A number moved into an interval lies in the interval. -/
theorem clamp_within (h : lower ≤ upper) (hx : x.isNaN = false) :
    lower ≤ Numeric.clamp lower upper x ∧ Numeric.clamp lower upper x ≤ upper := by
  have hlower := isNaN_left h
  have hupper := isNaN_right h
  have hgreater : lower ≤ later x lower := by
    rw [later_eq]
    split
    · exact le_self hlower
    · rename_i hlt
      exact (not_lt hx hlower).1 hlt
  have hnumber : (later x lower).isNaN = false := isNaN_right hgreater
  rw [Numeric.clamp, greater_eq_later hx hlower, lesser_eq_earlier hnumber hupper, earlier_eq]
  split
  · exact ⟨h, le_self hupper⟩
  · rename_i hlt
    exact ⟨hgreater, (not_lt hupper hnumber).1 hlt⟩

/-- A number that lies in an interval is not moved. -/
theorem clamp_of_within (hlower : lower ≤ x) (hupper : x ≤ upper) :
    Numeric.clamp lower upper x = x := by
  have hx := isNaN_right hlower
  rw [Numeric.clamp, greater_eq_later hx (isNaN_left hlower), later_eq,
    if_neg ((not_lt hx (isNaN_left hlower)).2 hlower), lesser_eq_earlier hx (isNaN_right hupper),
    earlier_eq, if_neg ((not_lt (isNaN_right hupper) hx).2 hupper)]

end Measure

namespace Numeric

variable {s : Settings} {m : Method} {minimizer : Minimizer} {p : Problem} {b : VariableBounds}
  {f : Functions} {e e' : EvaluatorState} {st : SolveState} {r : Request} {x : Exchange}

/-! ## What an exchange holds -/

/--
An exchange holds all of a problem that a method takes. The functions that replies are made from
come from an evaluator in some state.
-/
structure Carries (m : Method) (p : Problem) (b : VariableBounds) (f : Functions)
    (e : EvaluatorState) (x : Exchange) : Prop where
  /-- Only one method is given problems with discrete variables. -/
  discrete : ∀ c ∈ p.categories.entries, c ≠ .continuous → m = .differentialEvolution
  /-- It is told which variables are discrete. -/
  integrality : m = .differentialEvolution → ∃ flags options,
    x.request.arguments = .evolve flags options ∧ flags.shape = p.categories.shape ∧
      ∀ i : Nat, flags.entries[i]? = some true ↔
        ∃ c : Category, p.categories.entries[i]? = some c ∧ c ≠ .continuous
  /-- One by one, a constraint is an equality, or an inequality for each finite limit. -/
  rows : m.takesRows = true → ∃ rows, x.request.constraints = .rows rows ∧
    (∀ row ∈ rows, row.index < p.constraintCount) ∧
    ∀ (i : Nat) (lower upper : Float), p.constraintLower.entries[i]? = some lower →
      p.constraintUpper.entries[i]? = some upper →
        rows.filter (·.index = i) =
          if (upper - lower).abs < 1e-15 then [⟨i, true, lower, false⟩]
          else (if lower.isFinite then [⟨i, false, lower, false⟩] else []) ++
            if upper.isFinite then [⟨i, false, upper, true⟩] else []
  /-- A method without equalities is given none. -/
  inequalities : m = .cobyla → ∀ rows, x.request.constraints = .rows rows →
    ∀ row ∈ rows, row.isEquality = false
  /-- All together, the constraints keep their own limits. -/
  limits : m.takesRows = false → p.constraintCount ≠ 0 →
    x.request.constraints = .limits p.constraintLower p.constraintUpper
  /-- Every finite bound is given at its place, that of a binary variable cut. -/
  lower : ∀ (i : Nat) (c : Category) (bound : Float), p.categories.entries[i]? = some c →
    p.variableLower.entries[i]? = some bound → (effectiveLower c bound).isFinite = true →
      x.request.bounds = some b ∧ b.lower.entries[i]? = some (effectiveLower c bound)
  upper : ∀ (i : Nat) (c : Category) (bound : Float), p.categories.entries[i]? = some c →
    p.variableUpper.entries[i]? = some bound → (effectiveUpper c bound).isFinite = true →
      x.request.bounds = some b ∧ b.upper.entries[i]? = some (effectiveUpper c bound)
  /--
  Each start lies between the bounds at its place, and it is only moved if it does not. Starts and
  bounds of different shapes are stretched to that of the request.
  -/
  start : ∀ (i : Nat) (lower upper y : Float),
    (p.warmStart.stretched x.request.start.shape)[i]? = some y →
    (b.lower.stretched x.request.start.shape)[i]? = some lower →
    (b.upper.stretched x.request.start.shape)[i]? = some upper →
    y.isNaN = false → lower ≤ upper →
      ∃ z, x.request.start.entries[i]? = some z ∧ lower ≤ z ∧ z ≤ upper ∧
        (lower ≤ y → y ≤ upper → z = y)
  /-- If there is one start for each variable, then the bounds at its place are those of it. -/
  perVariable : x.request.start.size = p.variableCount → ∀ (i : Nat) (c : Category)
    (lower upper y : Float), p.categories.entries[i]? = some c →
    p.variableLower.entries[i]? = some lower → p.variableUpper.entries[i]? = some upper →
    p.warmStart.entries[i]? = some y → y.isNaN = false →
    effectiveLower c lower ≤ effectiveUpper c upper →
      ∃ z, x.request.start.entries[i]? = some z ∧ effectiveLower c lower ≤ z ∧
        z ≤ effectiveUpper c upper ∧
          (effectiveLower c lower ≤ y → y ≤ effectiveUpper c upper → z = y)
  /-- There is, and the start is a vector, if all arrays are. -/
  vectors : p.HasLengths p.variableCount p.constraintCount →
    x.request.start.shape = [p.variableCount]
  /-- Replies are made afresh, unless values that were kept for an earlier question show. -/
  replies : ∀ before answer after, x.transcript = before ++ answer :: after →
    ¬ f.IsMisled (before.map (·.1)) answer.1 → answer.2 = f.freshReply answer.1
  /-- What is made afresh for a row is the value of the constraint that the row is made of. -/
  row : ∀ rows k row, x.request.constraints = .rows rows → rows[k]? = some row →
    ∃ g, f.constraints[row.index]? = some g ∧ ∀ y values, f.freshValues y = .ok values →
      ∃ value, g y = .ok value ∧ f.freshReply (.row k y) = .ok [row.normalized value]
  /-- The objective is given as it is to be minimized. -/
  objective : (∀ y, f.freshReply (.objective y) =
      (f.objective y).map fun v => [p.direction.sign * v]) ∧ (p.evaluator.Queried e →
    ∃ expression : Expr, p.evaluator.objectiveAnswer = .ok expression ∧
      expression.compile = .ok f.objective)
  /-- There is a function for each constraint, made of the answer for it. -/
  constraints : (∀ y, f.freshReply (.values y) = f.constraints.mapM (· y)) ∧
    f.constraints.length = p.constraintCount ∧ (p.evaluator.Queried e →
    ∀ (i : Nat) (g : Compiled), f.constraints[i]? = some g → ∃ expression : Expr,
      p.evaluator.answers[i]? = some (.ok expression) ∧ expression.compile = .ok g)

/-! ## Bounds and starts -/

variable {i : Nat} {c : Category} {lower upper y : Float}

theorem getElem?_lowerBounds (hc : p.categories.entries[i]? = some c)
    (hlower : p.variableLower.entries[i]? = some lower) :
    (lowerBounds p)[i]? = some (effectiveLower c lower) := by
  rw [lowerBounds, List.getElem?_zipWith, hc, hlower]

theorem getElem?_upperBounds (hc : p.categories.entries[i]? = some c)
    (hupper : p.variableUpper.entries[i]? = some upper) :
    (upperBounds p)[i]? = some (effectiveUpper c upper) := by
  rw [upperBounds, List.getElem?_zipWith, hc, hupper]

theorem givenBounds_of_finite {given : Option VariableBounds} {bound : Float}
    (h : givenBounds b = .ok given) (hbound : bound ∈ b.lower.entries ++ b.upper.entries)
    (hfinite : bound.isFinite = true) : given = some b := by
  unfold givenBounds at h
  rw [if_pos] at h
  · split at h <;> cases h
    rfl
  · rcases List.mem_append.1 hbound with hbound | hbound
    · exact .inl (List.any_eq_true.2 ⟨bound, hbound, hfinite⟩)
    · exact .inr (List.any_eq_true.2 ⟨bound, hbound, hfinite⟩)

/-- The entries of a start are those of the stretched one, moved between the bounds they meet. -/
theorem getElem?_startPoint {start : Grid Float} (h : startPoint p b = .ok start)
    (hy : (p.warmStart.stretched start.shape)[i]? = some y)
    (hlower : (b.lower.stretched start.shape)[i]? = some lower)
    (hupper : (b.upper.stretched start.shape)[i]? = some upper) :
    start.entries[i]? = some (clamp lower upper y) := by
  obtain ⟨-, -, -, hentries⟩ := Grid.combineThree_eq_ok h
  have hpair : ((p.warmStart.stretched start.shape).zip (b.lower.stretched start.shape))[i]? =
      some (y, lower) := List.getElem?_zip_eq_some.2 ⟨hy, hlower⟩
  rw [hentries, List.getElem?_zipWith, hpair, hupper]

/-- If the start has an entry for each variable, then nothing has been stretched for it. -/
theorem stretched_of_startPoint {start : Grid Float} (hb : IsBounds p b)
    (h : startPoint p b = .ok start) (hsize : start.size = p.variableCount) :
    p.warmStart.stretched start.shape = p.warmStart.entries ∧
      b.lower.stretched start.shape = lowerBounds p ∧
        b.upper.stretched start.shape = upperBounds p := by
  obtain ⟨hwarm, hlower, hupper, -⟩ := Grid.combineThree_eq_ok h
  have hcount : cellCount start.shape = p.variableCount := start.filled.symm.trans hsize
  refine ⟨Grid.stretched_of_cellCount hwarm (hcount.trans p.warmStart_size.symm), ?_, ?_⟩
  · rw [← hb.lower_entries]
    refine Grid.stretched_of_cellCount hlower ?_
    rw [hcount, Grid.size, hb.lower_entries, length_lowerBounds]
  · rw [← hb.upper_entries]
    refine Grid.stretched_of_cellCount hupper ?_
    rw [hcount, Grid.size, hb.upper_entries, length_upperBounds]

theorem shape_of_startPoint {start : Grid Float} (hb : IsBounds p b)
    (hp : p.HasLengths p.variableCount p.constraintCount) (h : startPoint p b = .ok start) :
    start.shape = [p.variableCount] := by
  obtain ⟨start', hstart, hshape⟩ := Grid.combineThree_of_shape
    (fun x lower upper => clamp lower upper x)
    (hb.lower_shape.trans (hp.variableLower.trans hp.warmStart.symm))
    (hb.upper_shape.trans (hp.variableUpper.trans hp.warmStart.symm))
  cases hstart.symm.trans h
  exact hshape.trans hp.warmStart

/-! ## Discrete variables and equalities -/

theorem integrality_iff (i : Nat) :
    (p.categories.map (· != .continuous)).entries[i]? = some true ↔
      ∃ c : Category, p.categories.entries[i]? = some c ∧ c ≠ .continuous := by
  show (p.categories.entries.map (· != .continuous))[i]? = some true ↔ _
  rw [List.getElem?_map, Option.map_eq_some_iff]
  simp only [bne_iff_ne]

theorem Method.Takes.discrete (htakes : m.Takes p) (hc : c ∈ p.categories.entries)
    (hdiscrete : c ≠ .continuous) : m = .differentialEvolution := by
  obtain ⟨flags, -, hfits⟩ := htakes
  have hused : p.uses flags .discreteVariables = true :=
    List.any_eq_true.2 ⟨c, hc, bne_iff_ne.2 hdiscrete⟩
  have h := hfits .discreteVariables
  rw [hused] at h
  exact List.mem_singleton.1 h

/-- A method without equalities takes no problem of which an equality can be made. -/
theorem Method.Takes.isEquality_row (htakes : m.Takes p) (hm : m ∉ Method.supporting .equalities)
    {rows : List NormalRow} (h : NormalRow.ofGrids p.constraintLower p.constraintUpper = .ok rows)
    {row : NormalRow} (hrow : row ∈ rows) : row.isEquality = false := by
  obtain ⟨rfl, hmeet⟩ := NormalRow.ofGrids_eq_ok h
  obtain ⟨flags, hflags, hfits⟩ := htakes
  obtain ⟨grid, hgrid, hflags⟩ := bind_eq_ok.1 hflags
  cases pure_eq_ok.1 hflags
  obtain ⟨hlower, hupper⟩ := NormalRow.index_of_mem_all hrow
  have hlowerAt := List.getElem?_eq_getElem hlower
  have hupperAt := List.getElem?_eq_getElem hupper
  by_contra hequality
  have hclose := (NormalRow.exists_equality_iff hlowerAt hupperAt).1
    ⟨row, hrow, rfl, Bool.eq_true_of_not_eq_false hequality⟩
  -- the check compares the limits of a constraint with each other, too, and finds them close
  have hflag := Grid.mem_combine_of_samePlacesMeet (hmeet (List.ne_nil_of_length_pos (by omega)))
    hgrid hupperAt hlowerAt
  have hused : p.uses grid.entries .equalities = true :=
    List.any_eq_true.2 ⟨_, hflag, hclose⟩
  have hfit := hfits .equalities
  rw [hused] at hfit
  exact hm hfit

/-! ## Functions -/

theorem rows_of_constraintForm {rows : List NormalRow} (h : constraintForm m p = .ok (.rows rows)) :
    NormalRow.ofGrids p.constraintLower p.constraintUpper = .ok rows := by
  unfold constraintForm at h
  split at h
  · obtain ⟨rows', hrows, heq⟩ := map_eq_ok.1 h
    cases heq
    exact hrows
  · split at h <;> cases h

/-- The reply for a row is made of the value of one constraint, once all have values. -/
theorem freshReply_row {k : Nat} {row : NormalRow} {g : Compiled} {y values : List Float}
    (hrow : f.rows[k]? = some row) (hg : f.constraints[row.index]? = some g)
    (hvalues : f.freshValues y = .ok values) :
    ∃ value, g y = .ok value ∧ f.freshReply (.row k y) = .ok [row.normalized value] := by
  obtain ⟨value, hat, hvalue⟩ := getElem?_of_mapM hvalues hg
  refine ⟨value, hvalue, ?_⟩
  simp only [Functions.freshReply, Functions.replyFrom, Question.point, hvalues, hrow,
    NormalRow.valueAt, hat]
  rfl

theorem answered_of_functions (h : functions p e = .ok f e') (he : p.evaluator.Queried e) :
    (∃ expression : Expr, p.evaluator.objectiveAnswer = .ok expression ∧
      expression.compile = .ok f.objective) ∧
    ∀ (i : Nat) (g : Compiled), f.constraints[i]? = some g → ∃ expression : Expr,
      p.evaluator.answers[i]? = some (.ok expression) ∧ expression.compile = .ok g := by
  have hanswered := (resultOf_functions he).symm.trans (congrArg resultOf h)
  obtain ⟨hobjective, hconstraints, -⟩ := answeredFunctions_eq_ok hanswered
  refine ⟨bind_eq_ok.1 hobjective, fun i g hg => ?_⟩
  have hlength : f.constraints.length = p.constraintCount := by
    rw [← (mapM_eq_ok.1 hconstraints).length_eq, List.length_range]
  obtain ⟨hi, -⟩ := List.getElem?_eq_some_iff.1 hg
  obtain ⟨g', hg', hanswer⟩ :=
    getElem?_of_mapM hconstraints (List.getElem?_range (hlength ▸ hi))
  cases hg.symm.trans hg'
  obtain ⟨expression, hexpression, hcompile⟩ := bind_eq_ok.1 hanswer
  refine ⟨expression, ?_, hcompile⟩
  cases ha : p.evaluator.answers[i]? with
  | none =>
      rw [ha] at hexpression
      cases hexpression
  | some answer =>
      rw [ha] at hexpression
      exact congrArg some hexpression

/--
A minimizer that is run is given all of the problem: its discrete variables, its constraints, the
finite bounds of its variables, and its start. It is told the values of its functions.
-/
theorem carries_of_solve (hst : st.exchange = none)
    (h : exchangeAfter (solve s m minimizer p st) = some x) : ∃ b f e,
      variableBounds p = .ok b ∧ functions p st.evaluator = .ok f e ∧
        Carries m p b f st.evaluator x := by
  obtain ⟨b, f, e, htakes, hchecked, hf, hrequest, hx⟩ := exchange_of_solve hst h
  have hvariable := (checkedBounds_eq_ok.1 hchecked).1
  have hb := (variableBounds_eq_ok hvariable).2
  obtain ⟨hbounds, hstart, hform, harguments⟩ := request_eq_ok hrequest
  obtain ⟨-, -, -, hconstraints, hsign, hrows⟩ := functions_eq_ok hf
  have hlength := length_constraints_of_functions hf
  refine ⟨b, f, e, hvariable, hf, ?_⟩
  exact {
    discrete := fun c hc hdiscrete => htakes.discrete hc hdiscrete
    integrality := by
      rintro rfl
      exact ⟨_, _, harguments, rfl, integrality_iff⟩
    rows := by
      intro hm
      rw [constraintForm, if_pos hm] at hform
      obtain ⟨rows, hmade, hconstraints⟩ := map_eq_ok.1 hform
      obtain ⟨rfl, -⟩ := NormalRow.ofGrids_eq_ok hmade
      refine ⟨_, hconstraints.symm, fun row hrow => ?_, fun i lower upper hlower hupper => ?_⟩
      · rw [← p.constraintLower_size]
        exact (NormalRow.index_of_mem_all hrow).1
      · rw [NormalRow.filter_all hlower hupper, NormalRow.ofLimits]
        simp only [Measure.areClose_iff]
        rfl
    inequalities := by
      rintro rfl rows hconstraints row hrow
      rw [hconstraints] at hform
      exact htakes.isEquality_row (by decide) (rows_of_constraintForm hform) hrow
    limits := by
      intro hm hcount
      rw [constraintForm, hm, if_neg Bool.false_ne_true, if_neg hcount] at hform
      exact (Except.ok.inj hform).symm
    lower := by
      intro i c bound hc hbound hfinite
      have hentry := getElem?_lowerBounds hc hbound
      rw [← hb.lower_entries] at hentry
      exact ⟨givenBounds_of_finite hbounds
        (List.mem_append_left _ (List.mem_of_getElem? hentry)) hfinite, hentry⟩
    upper := by
      intro i c bound hc hbound hfinite
      have hentry := getElem?_upperBounds hc hbound
      rw [← hb.upper_entries] at hentry
      exact ⟨givenBounds_of_finite hbounds
        (List.mem_append_right _ (List.mem_of_getElem? hentry)) hfinite, hentry⟩
    start := by
      intro i lower upper y hy hlower hupper hnumber hle
      obtain ⟨hz, hz'⟩ := Measure.clamp_within hle hnumber
      exact ⟨_, getElem?_startPoint hstart hy hlower hupper, hz, hz', Measure.clamp_of_within⟩
    perVariable := by
      intro hsize i c lower upper y hc hlower hupper hy hnumber hle
      obtain ⟨hwarm, hlowers, huppers⟩ := stretched_of_startPoint hb hstart hsize
      obtain ⟨hz, hz'⟩ := Measure.clamp_within hle hnumber
      refine ⟨_, getElem?_startPoint hstart ?_ ?_ ?_, hz, hz', Measure.clamp_of_within⟩
      · rw [hwarm, hy]
      · rw [hlowers, getElem?_lowerBounds hc hlower]
      · rw [huppers, getElem?_upperBounds hc hupper]
    vectors := fun hp => shape_of_startPoint hb hp hstart
    replies := by
      intro before answer after htranscript hmisled
      rw [hx] at htranscript
      rw [Dialogue.reply_of_transcript htranscript]
      exact Functions.reply_eq_freshReply_iff.2 hmisled
    row := by
      intro rows k row hconstraints hrow
      rw [hconstraints] at hform
      have hmade := rows_of_constraintForm hform
      have hk : f.rows[k]? = some row := by
        rw [hrows, normalRows, hmade]
        exact hrow
      obtain ⟨rfl, -⟩ := NormalRow.ofGrids_eq_ok hmade
      have hindex : row.index < f.constraints.length := by
        rw [hlength, ← p.constraintLower_size]
        exact (NormalRow.index_of_mem_all (List.mem_of_getElem? hrow)).1
      have hg := List.getElem?_eq_getElem hindex
      exact ⟨_, hg, fun y values hvalues => freshReply_row hk hg hvalues⟩
    objective := ⟨fun y => by rw [← hsign]; rfl, fun he => (answered_of_functions hf he).1⟩
    constraints := ⟨fun y => rfl, hlength, fun he => (answered_of_functions hf he).2⟩ }

theorem isNaN_two : (2 : Float).isNaN = false := rfl

/-- A model of one variable from zero to two, required to be one, with a start of three. -/
def oneEquality : Model :=
  Model.empty.performAll [.addVariable,
    .addConstraint (.function (.single ⟨1⟩)) (.interval ⟨0, rfl⟩ ⟨2, isNaN_two⟩ (by decide)),
    .addConstraint (.function (.affine [⟨1, ⟨1⟩⟩] 0)) (.equalTo ⟨1, rfl⟩ rfl),
    .setStart ⟨1⟩ (.float 3)]

/-- Its solve runs a minimizer. -/
theorem carries_oneEquality :
    ∃ p x b f e, oneEquality.problem = .ok p ∧ exchangeAfter
      (solve .default .slsqp (claiming [1]) p ⟨.initial, [], none⟩) = some x ∧
      variableBounds p = .ok b ∧ functions p .initial = .ok f e ∧
      Carries .slsqp p b f .initial x := by
  obtain ⟨p, x, hp, hx⟩ : ∃ p x, oneEquality.problem = .ok p ∧ exchangeAfter
      (solve .default .slsqp (claiming [1]) p ⟨.initial, [], none⟩) = some x := ⟨_, _, rfl, rfl⟩
  obtain ⟨b, f, e, hb, hf, hcarries⟩ := carries_of_solve rfl hx
  exact ⟨p, x, b, f, e, hp, hx, hb, hf, hcarries⟩

end Numeric

end Extremum
