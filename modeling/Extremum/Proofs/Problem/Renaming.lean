import Extremum.Proofs.Expr.Renaming
import Extremum.Proofs.Problem.Enumeration

/-!
# Renamed models have the same problem

Identifiers are issued in the order of edits, and not again after deletions. So two models with the
same content may know their variables and constraints by other identifiers. Their problems do not
differ: variables go by their positions there, and constraints by their place in the enumeration.
-/

namespace Extremum

variable {f : VariableId → VariableId}

/-! ## Content by other identifiers -/

/-- The same constraint on renamed variables; its own identifier does not matter. -/
structure Constraint.Renamed (f : VariableId → VariableId) (c c' : Constraint) : Prop where
  function : c'.function = c.function.rename f
  region : c'.region = c.region

/-- A block with the same bounds, and an evaluator that gives renamed expressions. -/
structure NonlinearBlock.Renamed (f : VariableId → VariableId) (b b' : NonlinearBlock) : Prop where
  bounds : b'.bounds = b.bounds
  hasObjective : b'.hasObjective = b.hasObjective
  objective : b.hasObjective = true →
    SameSuccess b'.evaluator.objective (b.evaluator.objective.map (Expr.rename f))
  constraint : ∀ i < b.bounds.length, SameSuccess (b'.evaluator.constraint (i + 1))
    ((b.evaluator.constraint (i + 1)).map (Expr.rename f))

/--
A model with the content of another one. Its variables are those of the other, renamed, in the same
order; what is no variable of the other does not become one.
-/
structure Model.Renamed (f : VariableId → VariableId) (m m' : Model) : Prop where
  vars : m'.vars = m.vars.map f
  foreign : ∀ v, f v ∈ m'.vars → v ∈ m.vars
  groups : ∀ function region,
    List.Forall₂ (Constraint.Renamed f) (m.group function region) (m'.group function region)
  objective : m'.objective = m.objective.rename f
  sense : m'.sense = m.sense
  starts : ∀ v ∈ m.vars, m'.startOf? (f v) = m.startOf? v
  block : Option.Rel (NonlinearBlock.Renamed f) m.block m'.block

/-! ## Positions -/

namespace Positions

variable {ps ps' : Positions} {v : VariableId}

theorem idxOf_map {vs : List VariableId} (hnodup : (vs.map f).Nodup) (hv : v ∈ vs) :
    (vs.map f).idxOf (f v) = vs.idxOf v := by
  have hi : vs.idxOf v < (vs.map f).length := by
    rw [List.length_map]
    exact List.idxOf_lt_length_of_mem hv
  have hentry : (vs.map f)[vs.idxOf v] = f v := by
    rw [List.getElem_map, List.getElem_idxOf]
  rw [← hentry, hnodup.idxOf_getElem]

/-- If the variables are renamed in order, then each keeps its position. -/
theorem samePlaces (hvars : ps'.vars = ps.vars.map f)
    (hforeign : ∀ v, f v ∈ ps'.vars → v ∈ ps.vars) : SamePlaces f ps.position ps'.position := by
  intro v
  by_cases hv : v ∈ ps.vars
  · have hv' : f v ∈ ps'.vars := hvars ▸ List.mem_map_of_mem hv
    have hindex : ps'.vars.idxOf (f v) = ps.vars.idxOf v := by
      rw [hvars, idxOf_map (hvars ▸ ps'.nodup) hv]
    rw [position_of_mem hv, position_of_mem hv', hindex]
    exact .refl _
  · exact fun p => iff_of_false (fun h => hv (hforeign v (mem_of_position h)))
      fun h => hv (mem_of_position h)

end Positions

/-! ## Bounds, categories and start values -/

theorem filterMap_eq_of_forall₂ {α β γ : Type} {R : α → β → Prop} {g : α → Option γ}
    {k : β → Option γ} {as : List α} {bs : List β} (h : List.Forall₂ R as bs)
    (hgk : ∀ a b, R a b → k b = g a) : bs.filterMap k = as.filterMap g := by
  induction h with
  | nil => rfl
  | cons hab _ ih => rw [List.filterMap_cons, List.filterMap_cons, hgk _ _ hab, ih]

namespace Model.Renamed

variable {m m' : Model} {v w : VariableId}

theorem apply_eq_iff (h : m.Renamed f m') (hnodup : m'.vars.Nodup) (hv : v ∈ m.vars) :
    f w = f v ↔ w = v := by
  constructor
  · intro hwv
    have hw : w ∈ m.vars := h.foreign w (by
      rw [hwv, h.vars]
      exact List.mem_map_of_mem hv)
    exact List.inj_on_of_nodup_map (h.vars ▸ hnodup) hw hv hwv
  · exact congrArg f

theorem flatMap_groups (h : m.Renamed f m') (function : Kind) (kinds : List Kind) :
    List.Forall₂ (Constraint.Renamed f) (kinds.flatMap (m.group function))
      (kinds.flatMap (m'.group function)) := by
  refine List.rel_flatMap (R := Eq) (List.forall₂_refl kinds) ?_
  rintro k _ rfl
  exact h.groups function k

theorem regionsOn (h : m.Renamed f m') (hnodup : m'.vars.Nodup) (hv : v ∈ m.vars)
    (kinds : List Kind) : m'.regionsOn kinds (f v) = m.regionsOn kinds v := by
  refine filterMap_eq_of_forall₂ (h.flatMap_groups .single kinds) fun c c' hc => ?_
  rw [hc.function, hc.region]
  cases c.function with
  | single w => simp only [ScalarFunction.rename, h.apply_eq_iff hnodup hv]
  | affine _ _ | quadratic _ _ _ => rfl

theorem variableRange (h : m.Renamed f m') (hnodup : m'.vars.Nodup) (hv : v ∈ m.vars) :
    m'.variableRange (f v) = m.variableRange v := by
  rw [Model.variableRange, h.regionsOn hnodup hv, Model.variableRange]

theorem categoryAssignments (h : m.Renamed f m') :
    m'.categoryAssignments = m.categoryAssignments.map fun a => (f a.1, a.2) := by
  unfold Model.categoryAssignments
  rw [List.map_filterMap]
  refine filterMap_eq_of_forall₂ (h.flatMap_groups .single _) fun c c' hc => ?_
  unfold Constraint.assignment?
  rw [hc.function, hc.region]
  cases c.function with
  | single w => cases c.region.category <;> rfl
  | affine _ _ | quadratic _ _ _ => rfl

theorem variableCategory (h : m.Renamed f m') (hnodup : m'.vars.Nodup) (hv : v ∈ m.vars) :
    m'.variableCategory (f v) = m.variableCategory v := by
  have hfilter : m'.categoryAssignments.filter (·.1 = f v) =
      (m.categoryAssignments.filter (·.1 = v)).map fun a => (f a.1, a.2) := by
    rw [h.categoryAssignments, List.filter_map]
    simp only [Function.comp_def, h.apply_eq_iff hnodup hv]
  rw [Model.variableCategory, foldl_assigned, hfilter, List.getLast?_map, Option.map_map,
    Model.variableCategory, foldl_assigned]
  rfl

/-- What is the same for each variable is the same by position. -/
theorem map_vars {α : Type} (h : m.Renamed f m') {g g' : VariableId → α}
    (hg : ∀ v ∈ m.vars, g' (f v) = g v) : m'.vars.map g' = m.vars.map g := by
  rw [h.vars, List.map_map]
  exact List.map_congr_left hg

theorem direction (h : m.Renamed f m') : m'.direction = m.direction := by
  rw [Model.direction, h.sense, Model.direction]

theorem nonlinearBounds (h : m.Renamed f m') : m'.nonlinearBounds = m.nonlinearBounds := by
  have hblock := h.block
  unfold Model.nonlinearBounds
  generalize m.block = b, m'.block = b' at hblock ⊢
  cases hblock with
  | none => rfl
  | some hb => exact hb.bounds

/-! ## Expressions -/

variable {ps ps' : Positions} {rows rows' : List Row} {objective objective' : Option Expr}

theorem samePlaces (h : m.Renamed f m') (hps : Positions.ofList m.vars = .ok ps)
    (hps' : Positions.ofList m'.vars = .ok ps') : SamePlaces f ps.position ps'.position := by
  obtain ⟨-, hvars⟩ := Positions.ofList_eq_ok.1 hps
  obtain ⟨-, hvars'⟩ := Positions.ofList_eq_ok.1 hps'
  refine Positions.samePlaces (by rw [hvars, hvars', h.vars]) ?_
  rw [hvars, hvars']
  exact h.foreign

theorem objectiveExpression (h : m.Renamed f m') {place place' : VariableId → Except Fault Nat}
    (hplaces : SamePlaces f place place') :
    SameSuccess (m'.objectiveExpression place') (m.objectiveExpression place) := by
  unfold Model.objectiveExpression
  rw [h.sense, h.objective]
  split
  · exact .refl _
  · exact (Expr.ofFunction_rename hplaces m.objective).bind fun e => .refl _

end Model.Renamed

/-- What a row holds apart from the identifier of its constraint. -/
def Row.content (row : Row) : Expr × Float × Float := (row.expression, row.lower, row.upper)

section Rows

variable {place place' : VariableId → Except Fault Nat} {c c' : Constraint} {row row' : Row}
  {cs cs' : List Constraint} {rows rows' : List Row}

theorem Row.content_renamed (hplaces : SamePlaces f place place') (hc : c.Renamed f c')
    (h : Row.ofConstraint place c = .ok row) (h' : Row.ofConstraint place' c' = .ok row') :
    row'.content = row.content := by
  obtain ⟨e, he, h⟩ := bind_eq_ok.1 h
  obtain ⟨range, hrange, h⟩ := bind_eq_ok.1 h
  obtain ⟨e', he', h'⟩ := bind_eq_ok.1 h'
  obtain ⟨range', hrange', h'⟩ := bind_eq_ok.1 h'
  cases pure_eq_ok.1 h
  cases pure_eq_ok.1 h'
  rw [hc.function, hc.region] at he'
  rw [hc.region] at hrange'
  have hsame : SameSuccess (Expr.ofConstraint place' (c.function.rename f) c.region)
      (Expr.ofConstraint place c.function c.region) :=
    (Expr.ofFunction_rename hplaces c.function).bind fun e => .refl _
  cases hsame.eq he' he
  cases hrange.symm.trans hrange'
  rfl

theorem Row.contents_renamed (hplaces : SamePlaces f place place')
    (h : List.Forall₂ (Constraint.Renamed f) cs cs')
    (hrows : cs.mapM (Row.ofConstraint place) = .ok rows)
    (hrows' : cs'.mapM (Row.ofConstraint place') = .ok rows') :
    rows'.map Row.content = rows.map Row.content := by
  have hmatch := mapM_eq_ok.1 hrows
  have hmatch' := mapM_eq_ok.1 hrows'
  clear hrows hrows'
  induction h generalizing rows rows' with
  | nil =>
      cases hmatch
      cases hmatch'
      rfl
  | cons hc _ ih =>
      cases hmatch with
      | cons hrow hmatch =>
          cases hmatch' with
          | cons hrow' hmatch' =>
              rw [List.map_cons, List.map_cons, ih hmatch hmatch',
                Row.content_renamed hplaces hc hrow hrow']

end Rows

theorem Model.Renamed.algebraicConstraints {m m' : Model} (h : m.Renamed f m') :
    List.Forall₂ (Constraint.Renamed f) m.algebraicConstraints m'.algebraicConstraints := by
  refine List.rel_flatMap (R := Eq) (List.forall₂_refl Kind.algebraicFunctions) ?_
  rintro k _ rfl
  exact h.flatMap_groups k Kind.scalarRegions

/-! ## Answers -/

namespace UnifiedEvaluator

/-- Evaluators over blocks that are renamed, with what is in terms of positions being the same. -/
structure Renamed (f : VariableId → VariableId) (u u' : UnifiedEvaluator) : Prop where
  inner : Option.Rel (NonlinearBlock.Renamed f) u.inner u'.inner
  places : SamePlaces f u.positions.position u'.positions.position
  objective : u'.objective = u.objective
  constraints : u'.constraints = u.constraints

namespace Renamed

variable {u u' : UnifiedEvaluator} {s s' : EvaluatorState}

theorem objectiveAnswer (h : u.Renamed f u') :
    SameSuccess u'.objectiveAnswer u.objectiveAnswer := by
  have hinner := h.inner
  unfold UnifiedEvaluator.objectiveAnswer
  rw [h.objective]
  generalize u.inner = inner, u'.inner = inner' at hinner ⊢
  cases u.objective with
  | some e => exact .refl _
  | none =>
      cases hinner with
      | none => exact .refl _
      | @some b b' hb =>
          dsimp only
          rw [hb.hasObjective]
          split
          · rename_i hobjective
            exact (hb.objective hobjective).bind_map fun e => Expr.resolve_rename h.places e
          · exact .refl _

theorem innerAnswers (h : u.Renamed f u') :
    List.Forall₂ SameSuccess u'.innerAnswers u.innerAnswers := by
  have hinner := h.inner
  unfold UnifiedEvaluator.innerAnswers
  generalize u.inner = inner, u'.inner = inner' at hinner ⊢
  cases hinner with
  | none => exact .nil
  | some hb =>
      simp only [hb.bounds, List.forall₂_map_left_iff, List.forall₂_map_right_iff]
      refine List.forall₂_same.2 fun i hi => ?_
      exact (hb.constraint i (List.mem_range.1 hi)).bind_map fun e => Expr.resolve_rename h.places e

theorem answers (h : u.Renamed f u') : List.Forall₂ SameSuccess u'.answers u.answers := by
  unfold UnifiedEvaluator.answers
  rw [h.constraints]
  exact List.rel_append h.innerAnswers (List.forall₂_same.2 fun _ _ => .refl _)

theorem result_objectiveExpression (h : u.Renamed f u') (hs : u.Queried s) (hs' : u'.Queried s') :
    SameSuccess (resultOf (u'.objectiveExpression s')) (resultOf (u.objectiveExpression s)) := by
  rw [hs.result_objectiveExpression, hs'.result_objectiveExpression]
  exact h.objectiveAnswer

theorem result_constraintExpression (h : u.Renamed f u') (hs : u.Queried s) (hs' : u'.Queried s')
    (i : Int) : SameSuccess (resultOf (u'.constraintExpression i s'))
      (resultOf (u.constraintExpression i s)) := by
  by_cases hi : i < 1
  · have hfail : ∀ (u : UnifiedEvaluator) (s : EvaluatorState),
        resultOf (u.constraintExpression i s) = .error (.unknownPosition i) := by
      intro u s
      unfold constraintExpression
      rw [if_pos hi]
      rfl
    rw [hfail, hfail]
    exact .refl _
  · obtain ⟨n, rfl⟩ : ∃ n : Nat, i = (n + 1 : Nat) := ⟨(i - 1).toNat, by omega⟩
    rw [hs.result_constraintExpression, hs'.result_constraintExpression]
    exact .getD h.answers n _

end Renamed

end UnifiedEvaluator

/-! ## Problems -/

namespace Model

variable {m m' : Model} {ps ps' : Positions} {rows rows' : List Row}
  {objective objective' : Option Expr}

theorem map_content {β : Type} (h : rows'.map Row.content = rows.map Row.content)
    (k : Expr × Float × Float → β) :
    rows'.map (fun row => k row.content) = rows.map fun row => k row.content := by
  rw [← Function.comp_def k, ← List.map_map, h, List.map_map]

theorem Renamed.fields_eq (h : m.Renamed f m') (hnodup : m'.vars.Nodup)
    (hcontents : rows'.map Row.content = rows.map Row.content) :
    (m'.problemWith ps' rows' objective').fields = (m.problemWith ps rows objective).fields := by
  have hlength : rows'.length = rows.length := by
    rw [← List.length_map, hcontents, List.length_map]
  have hlower : rows'.map (·.lower) = rows.map (·.lower) := map_content hcontents (·.2.1)
  have hupper : rows'.map (·.upper) = rows.map (·.upper) := map_content hcontents (·.2.2)
  have hcount : m'.vars.length = m.vars.length := by rw [h.vars, List.length_map]
  have hleast : m'.vars.map (fun v => (m'.variableRange v).1) =
      m.vars.map fun v => (m.variableRange v).1 :=
    h.map_vars fun v hv => by rw [h.variableRange hnodup hv]
  have hgreatest : m'.vars.map (fun v => (m'.variableRange v).2) =
      m.vars.map fun v => (m.variableRange v).2 :=
    h.map_vars fun v hv => by rw [h.variableRange hnodup hv]
  have hcategories : m'.vars.map m'.variableCategory = m.vars.map m.variableCategory :=
    h.map_vars fun v => h.variableCategory hnodup
  have hstarts : m'.vars.map (fun v => (m'.startOf? v).getD 0) =
      m.vars.map fun v => (m.startOf? v).getD 0 :=
    h.map_vars fun v hv => by rw [h.starts v hv]
  rw [fields_problemWith, fields_problemWith, hcount, h.nonlinearBounds, hlength, hlower, hupper,
    hleast, hgreatest, h.direction, hcategories, hstarts]

/--
Models with the same content have problems that are equal in every field, by whatever identifiers
and by whatever edits. Whatever the two evaluators were asked before, they give the same expression
for the objective and for each index of a constraint, or both of them fail. For the algebraic
constraints they do not fail.
-/
theorem Renamed.problem_eq (h : m.Renamed f m') (hm : m.Reachable) (hm' : m'.Reachable) :
    ∃ p p', m.problem = .ok p ∧ m'.problem = .ok p' ∧ p'.fields = p.fields ∧
      ∀ s s', p.evaluator.Queried s → p'.evaluator.Queried s' →
        SameSuccess (resultOf (p'.evaluator.objectiveExpression s'))
          (resultOf (p.evaluator.objectiveExpression s)) ∧
        (∀ i : Int, SameSuccess (resultOf (p'.evaluator.constraintExpression i s'))
          (resultOf (p.evaluator.constraintExpression i s))) ∧
        ∀ i : Nat, m.nonlinearBounds.length < i → i ≤ p.constraintCount →
          ∃ e, resultOf (p.evaluator.constraintExpression i s) = .ok e := by
  have hw := hm.wellFormed
  have hw' := hm'.wellFormed
  obtain ⟨p, hp⟩ := hw.problem_ok
  obtain ⟨p', hp'⟩ := hw'.problem_ok
  refine ⟨p, p', hp, hp', ?_⟩
  obtain ⟨ps, rows, objective, hps, hrows, ho, rfl⟩ := hw.problem_eq_ok.1 hp
  obtain ⟨ps', rows', objective', hps', hrows', ho', rfl⟩ := hw'.problem_eq_ok.1 hp'
  have hplaces := h.samePlaces hps hps'
  have hcontents := Row.contents_renamed hplaces h.algebraicConstraints hrows hrows'
  have hevaluators : (m.problemWith ps rows objective).evaluator.Renamed f
      (m'.problemWith ps' rows' objective').evaluator := {
    inner := h.block
    places := hplaces
    objective := (h.objectiveExpression hplaces).eq ho' ho
    constraints := map_content hcontents (·.1) }
  refine ⟨h.fields_eq hw'.nodup hcontents, fun s s' hs hs' => ⟨?_, fun i => ?_, fun i hi hle => ?_⟩⟩
  · exact hevaluators.result_objectiveExpression hs hs'
  · exact hevaluators.result_constraintExpression hs hs' i
  · obtain ⟨k, rfl⟩ : ∃ k, i = m.nonlinearBounds.length + k + 1 :=
      ⟨i - m.nonlinearBounds.length - 1, by omega⟩
    have hk : k < rows.length := by
      have hcount : (m.problemWith ps rows objective).constraintCount =
        m.nonlinearBounds.length + rows.length := rfl
      omega
    exact ⟨_, congrArg resultOf (constraintExpression_row (List.getElem?_eq_getElem hk))⟩

/-- Two variables, made at once. -/
def direct : List Edit :=
  [.addVariables 2, .addConstraint (.function (.single ⟨1⟩)) (.lessThan ⟨8, rfl⟩),
    .addConstraint (.function (.affine [⟨1, ⟨1⟩⟩, ⟨2, ⟨2⟩⟩] 0)) (.greaterThan ⟨2, rfl⟩),
    .setObjective (.function (.affine [⟨3, ⟨2⟩⟩] 0)) (.text "max"), .setStart ⟨2⟩ (.float 5),
    .setBlock (some ⟨.ofExprs 0 none [.reference ⟨1⟩] [expressionGraphs], [(0, 5)], false⟩)]

/-- The same with a third variable for a while, and the constraints in another order. -/
def detour : List Edit :=
  [.addVariables 3,
    .addConstraint (.function (.affine [⟨1, ⟨2⟩⟩, ⟨7, ⟨1⟩⟩, ⟨2, ⟨3⟩⟩] 0)) (.greaterThan ⟨2, rfl⟩),
    .addConstraint (.function (.single ⟨1⟩)) (.lessThan ⟨6, rfl⟩),
    .addConstraint (.function (.single ⟨2⟩)) (.lessThan ⟨8, rfl⟩), .deleteVariable ⟨1⟩,
    .setObjective (.function (.affine [⟨3, ⟨3⟩⟩] 0)) (.text "max"), .setStart ⟨3⟩ (.float 5),
    .setBlock (some ⟨.ofExprs 1 none [.reference ⟨2⟩] [expressionGraphs], [(0, 5)], false⟩)]

theorem renamed_detour :
    (empty.performAll direct).Renamed (fun v => ⟨v.value + 1⟩) (empty.performAll detour) where
  vars := rfl
  foreign := by
    intro v hv
    have hvars : (empty.performAll detour).vars = [⟨2⟩, ⟨3⟩] := rfl
    have hvars' : (empty.performAll direct).vars = [⟨1⟩, ⟨2⟩] := rfl
    obtain ⟨n⟩ := v
    simp only [hvars, List.mem_pair, VariableId.mk.injEq] at hv
    simp only [hvars', List.mem_pair, VariableId.mk.injEq]
    omega
  groups := by
    intro function region
    cases function <;> cases region <;> first | exact .nil | exact .cons ⟨rfl, rfl⟩ .nil
  objective := rfl
  sense := rfl
  starts := by
    intro v hv
    rcases List.mem_pair.1 hv with rfl | rfl <;> rfl
  block := by
    refine .some ⟨rfl, rfl, fun h => Bool.noConfusion h, fun i hi => ?_⟩
    obtain rfl : i = 0 := Nat.lt_one_iff.1 hi
    exact .refl _

theorem problem_eq_detour :
    ∃ p p', (empty.performAll direct).problem = .ok p ∧
      (empty.performAll detour).problem = .ok p' ∧ p'.fields = p.fields ∧
      ∀ s s', p.evaluator.Queried s → p'.evaluator.Queried s' →
        SameSuccess (resultOf (p'.evaluator.constraintExpression 2 s'))
          (resultOf (p.evaluator.constraintExpression 2 s)) := by
  have hdirect : (empty.performAll direct).Reachable := Reachable.empty.performAll _
  have hdetour : (empty.performAll detour).Reachable := Reachable.empty.performAll _
  obtain ⟨p, p', hp, hp', hfields, hanswers⟩ := renamed_detour.problem_eq hdirect hdetour
  exact ⟨p, p', hp, hp', hfields, fun s s' hs hs' => (hanswers s s' hs hs').2.1 2⟩

end Model

end Extremum
