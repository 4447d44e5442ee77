import Extremum.Proofs.Evaluator.Answers
import Extremum.Proofs.Model.Store
import Extremum.Proofs.Problem.FeasibleSet

/-!
# The enumeration of constraints

Expressions and bounds of constraints come to a problem on different ways. Both count the
constraints alike: those of the nonlinear block first, then the algebraic ones by the kinds of their
functions, by the kinds of their regions, and in the order of issue.
-/

namespace Extremum

/-- The turn of functions or regions of a kind in the enumeration. -/
def Kind.turn : Kind → Nat
  | affine | lessThan => 0
  | quadratic | greaterThan => 1
  | equalTo => 2
  | interval => 3
  | single | zeroOne | integer => 4

/-- The turn of a constraint: by its function, then by its region, then by its issue. -/
def Constraint.turn (h : History) (c : Constraint) : ℕ ×ₗ ℕ ×ₗ ℕ :=
  toLex (c.function.kind.turn, toLex (c.region.kind.turn, h.issued.idxOf c.id))

/--
A position of constraints, counted from one, has these bounds, and this answer of the evaluator,
whatever was asked before.
-/
structure Problem.CarriesAt (p : Problem) (j : Nat) (answer : Except Fault Expr)
    (bounds : Float × Float) : Prop where
  lower : p.constraintLower.entries[j - 1]? = some bounds.1
  upper : p.constraintUpper.entries[j - 1]? = some bounds.2
  expression : ∀ s, p.evaluator.Queried s →
    resultOf (p.evaluator.constraintExpression j s) = answer

/-! ## The order of the algebraic constraints -/

theorem pairwise_idxOf {α : Type} [DecidableEq α] {as : List α} (h : as.Nodup) :
    as.Pairwise fun a b => as.idxOf a < as.idxOf b := by
  rw [List.pairwise_iff_getElem]
  intro i j hi hj hij
  rwa [h.idxOf_getElem i hi, h.idxOf_getElem j hj]

theorem Constraint.turn_lt_iff {h : History} {c d : Constraint} : c.turn h < d.turn h ↔
    c.function.kind.turn < d.function.kind.turn ∨
      c.function.kind.turn = d.function.kind.turn ∧
        (c.region.kind.turn < d.region.kind.turn ∨
          c.region.kind.turn = d.region.kind.turn ∧
            h.issued.idxOf c.id < h.issued.idxOf d.id) := by
  simp only [turn, Prod.Lex.toLex_lt_toLex]

/-- Each pair of kinds has its turn before those that follow it. -/
theorem Kind.pairwise_algebraicPairs : Kind.algebraicPairs.Pairwise fun k k' =>
    k.1.turn < k'.1.turn ∨ k.1.turn = k'.1.turn ∧ k.2.turn < k'.2.turn := by
  decide

namespace Model

variable {m : Model} {h : History} {c d : Constraint} {function region : Kind}

theorem HasHistory.reachable (hh : m.HasHistory h) : m.Reachable := by
  induction hh with
  | empty => exact .empty
  | perform e _ ih => exact ih.perform e

theorem algebraicConstraints_eq (m : Model) :
    m.algebraicConstraints = Kind.algebraicPairs.flatMap fun k => m.group k.1 k.2 := by
  simp only [algebraicConstraints, Kind.algebraicPairs, List.flatMap_assoc, List.flatMap_map]

theorem WellFormed.kinds_of_mem_group (h : m.WellFormed) (hc : c ∈ m.group function region) :
    c.function.kind = function ∧ c.region.kind = region := by
  obtain ⟨hc, hkinds⟩ := List.mem_filter.1 hc
  obtain ⟨hf, hr⟩ := of_decide_eq_true hkinds
  exact ⟨(h.wellKinded c hc).function ▸ hf, (h.wellKinded c hc).region ▸ hr⟩

/-- Constraints are kept in the order of issue. -/
theorem HasHistory.pairwise_constraints (hh : m.HasHistory h) :
    m.constraints.Pairwise fun c d => h.issued.idxOf c.id < h.issued.idxOf d.id := by
  have hids : (h.standing.map (·.id)).Pairwise fun id id' =>
      h.issued.idxOf id < h.issued.idxOf id' :=
    (pairwise_idxOf hh.numbered.nodup).sublist History.ids_standing_sublist
  rw [List.pairwise_map] at hids
  rw [hh.constraints_eq]
  exact hids

theorem HasHistory.pairwise_algebraicConstraints (hh : m.HasHistory h) :
    m.algebraicConstraints.Pairwise fun c d => c.turn h < d.turn h := by
  have hwell := hh.reachable.wellFormed
  rw [algebraicConstraints_eq, List.pairwise_flatMap]
  constructor
  · intro k _
    refine (hh.pairwise_constraints.filter _).imp_of_mem fun {c d} hc hd hissue => ?_
    obtain ⟨hcf, hcr⟩ := hwell.kinds_of_mem_group hc
    obtain ⟨hdf, hdr⟩ := hwell.kinds_of_mem_group hd
    rw [Constraint.turn_lt_iff, hcf, hcr, hdf, hdr]
    exact .inr ⟨rfl, .inr ⟨rfl, hissue⟩⟩
  · refine Kind.pairwise_algebraicPairs.imp fun {k k'} hturn c hc d hd => ?_
    obtain ⟨hcf, hcr⟩ := hwell.kinds_of_mem_group hc
    obtain ⟨hdf, hdr⟩ := hwell.kinds_of_mem_group hd
    rw [Constraint.turn_lt_iff, hcf, hcr, hdf, hdr]
    exact hturn.imp_right fun ⟨hsame, hregion⟩ => ⟨hsame, .inl hregion⟩

/-! ## Positions of constraints -/

variable {ps : Positions} {rows : List Row} {objective : Option Expr}

/-- The positions of the nonlinear block carry its bounds and its resolved expressions. -/
theorem carriesAt_block {block : NonlinearBlock} {i : Nat} {range : Float × Float}
    (hb : m.block = some block) (hi : block.bounds[i]? = some range) :
    (m.problemWith ps rows objective).CarriesAt (i + 1)
      (block.evaluator.constraint (i + 1) >>= fun e => e.resolve ps.position) range := by
  obtain ⟨hlt, rfl⟩ := List.getElem?_eq_some_iff.1 hi
  have hinner : (m.problemWith ps rows objective).evaluator.inner = some block := hb
  refine ⟨?_, ?_, fun s hs => ?_⟩
  · simp [problemWith, Grid.ofList, nonlinearBounds, hb, List.getElem?_append, hlt]
  · simp [problemWith, Grid.ofList, nonlinearBounds, hb, List.getElem?_append, hlt]
  · rw [UnifiedEvaluator.constraintExpression_inner hinner hlt, hs.result_innerExpression hinner]
    rfl

theorem carriesAt_row {k : Nat} {row : Row} (hrow : rows[k]? = some row) :
    (m.problemWith ps rows objective).CarriesAt (m.nonlinearBounds.length + k + 1)
      (.ok row.expression) (row.lower, row.upper) where
  lower := constraintLower_row hrow
  upper := constraintUpper_row hrow
  expression := by
    intro s _
    rw [constraintExpression_row hrow]
    rfl

/--
The problem of a model counts constraints in one way. The first positions carry the bounds of the
nonlinear block and its expressions, resolved to positions. The others carry all affine and
quadratic constraints, ordered by function, region and issue: each position the comparison of one
constraint and the bounds of the region of this same constraint.
-/
theorem HasHistory.problem_enumerates (hh : m.HasHistory h) :
    ∃ p ps, m.problem = .ok p ∧ Positions.ofList m.vars = .ok ps ∧
      p.constraintCount = m.nonlinearBounds.length + m.algebraicConstraints.length ∧
      (∀ block, m.block = some block → ∀ i range, block.bounds[i]? = some range →
        p.CarriesAt (i + 1)
          (block.evaluator.constraint (i + 1) >>= fun e => e.resolve ps.position) range) ∧
      (∀ c, c ∈ m.algebraicConstraints ↔ c ∈ m.constraints ∧ c.IsAlgebraic) ∧
      m.algebraicConstraints.Pairwise (fun c d => c.turn h < d.turn h) ∧
      ∀ i c, m.algebraicConstraints[i]? = some c → ∃ e range,
        Expr.ofConstraint ps.position c.function c.region = .ok e ∧ c.region.bounds = .ok range ∧
        p.CarriesAt (m.nonlinearBounds.length + i + 1) (.ok e) range := by
  have hwell := hh.reachable.wellFormed
  obtain ⟨ps, rows, objective, hvars, hrows, hp⟩ := hwell.exists_problem
  have hps : Positions.ofList m.vars = .ok ps := Positions.ofList_eq_ok.2 ⟨hwell.nodup, hvars⟩
  have hlength : m.algebraicConstraints.length = rows.length := (mapM_eq_ok.1 hrows).length_eq
  refine ⟨_, ps, hp, hps, by rw [hlength]; rfl, fun block hb i range => carriesAt_block hb,
    fun c => hwell.mem_algebraicConstraints, hh.pairwise_algebraicConstraints, ?_⟩
  intro i c hc
  obtain ⟨row, hrow, hof⟩ := getElem?_of_mapM hrows hc
  obtain ⟨e, he, hof⟩ := bind_eq_ok.1 hof
  obtain ⟨range, hrange, hof⟩ := bind_eq_ok.1 hof
  cases pure_eq_ok.1 hof
  exact ⟨e, range, he, hrange, carriesAt_row hrow⟩

/--
Constraints come in another order than they were added, and positions follow the variables that are
left.
-/
theorem problem_enumerates_after_deletion :
    let m := empty.performAll [.addVariables 2,
      .setBlock (some ⟨.ofExprs 0 none [.reference ⟨2⟩] [expressionGraphs], [(0, 5)], false⟩),
      .addConstraint (.function (.quadratic [] [⟨1, ⟨2⟩, ⟨2⟩⟩] 0)) (.lessThan ⟨3, rfl⟩),
      .addConstraint (.function (.affine [⟨1, ⟨1⟩⟩, ⟨2, ⟨2⟩⟩] 0)) (.greaterThan ⟨1, rfl⟩),
      .addConstraint (.function (.single ⟨2⟩)) (.lessThan ⟨4, rfl⟩), .deleteVariable ⟨1⟩]
    ∃ p, m.problem = .ok p ∧ p.constraintCount = 3 ∧ p.CarriesAt 1 (.ok (.position 1)) (0, 5) ∧
      p.CarriesAt 2 (.ok (.comparison .ge
        (.sum [.constant 0, .product [.constant 2, .position 1]]) (.constant 1))) (1, 1.0 / 0.0) ∧
      p.CarriesAt 3 (.ok (.comparison .le (.sum [.constant 0,
        .product [.constant (1 * 0.5), .position 1, .position 1]]) (.constant 3)))
        (-1.0 / 0.0, 3) := by
  intro m
  have hh : m.HasHistory [
      .added ⟨1, .quadratic, .lessThan⟩ (.quadratic [] [⟨1, ⟨2⟩, ⟨2⟩⟩] 0) (.lessThan ⟨3, rfl⟩),
      .added ⟨2, .affine, .greaterThan⟩ (.affine [⟨1, ⟨1⟩⟩, ⟨2, ⟨2⟩⟩] 0) (.greaterThan ⟨1, rfl⟩),
      .added ⟨3, .single, .lessThan⟩ (.single ⟨2⟩) (.lessThan ⟨4, rfl⟩), .deleted ⟨1⟩] :=
    ((((((HasHistory.empty.perform _).perform _).perform _).perform _).perform _).perform _)
  obtain ⟨p, ps, hp, hps, hcount, hblock, -, -, hrows⟩ := hh.problem_enumerates
  obtain ⟨e, range, he, hrange, hfirst⟩ := hrows 0 _ rfl
  obtain ⟨e', range', he', hrange', hsecond⟩ := hrows 1 _ rfl
  cases hps
  cases he
  cases hrange
  cases he'
  cases hrange'
  exact ⟨p, hp, hcount, hblock _ rfl 0 _ rfl, hfirst, hsecond⟩

end Model

end Extremum
