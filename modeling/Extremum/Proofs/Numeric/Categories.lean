import Extremum.Proofs.Numeric.Request
import Extremum.Proofs.Problem.Assembly

/-!
# The bounds of binary variables

The bounds of a binary variable are cut down to what lies between zero and one; no others are
changed. Which variables are binary follows from the constraints on them.
-/

namespace Extremum

namespace Numeric

variable {p : Problem} {m : Model} {i : Nat} {lower upper : Float}

/-- One range is another one without what lies below zero or above one. -/
structure IsUnitPart (range range' : Float × Float) : Prop where
  lower : range'.1 = if range.1 < 0 then 0 else range.1
  upper : range'.2 = if 1 < range.2 then 1 else range.2
  within : ∀ y, Within range' y ↔ Within range y ∧ Within (0, 1) y

theorem isUnitPart_effective (hlower : lower.isNaN = false) (hupper : upper.isNaN = false) :
    IsUnitPart (lower, upper) (effectiveLower .binary lower, effectiveUpper .binary upper) := by
  have hgreater : effectiveLower .binary lower = if lower < 0 then 0 else lower := by
    rw [effectiveLower, if_pos rfl, Measure.greater_eq_later hlower rfl, Measure.later_eq]
  have hlesser : effectiveUpper .binary upper = if 1 < upper then 1 else upper := by
    rw [effectiveUpper, if_pos rfl, Measure.lesser_eq_earlier hupper rfl, Measure.earlier_eq]
  refine ⟨hgreater, hlesser, fun y => ?_⟩
  unfold Within
  rw [hgreater, hlesser, Number.greater_le_iff hlower rfl, Number.le_lesser_iff hupper rfl]
  exact and_and_and_comm

/-- What becomes of a variable at a position of a problem. -/
structure Classifies (p : Problem) (m : Model) (i : Nat) (v : VariableId) : Prop where
  integer : m.Confines v .integer → p.categories.entries[i]? = some .integer
  binary : ¬ m.Confines v .integer → m.Confines v .zeroOne → p.categories.entries[i]? = some .binary
  continuous : ¬ m.Confines v .integer → ¬ m.Confines v .zeroOne →
    p.categories.entries[i]? = some .continuous
  /-- A minimizer is given a part of the bounds of a binary variable, and all others as they are. -/
  bounds : ∃ (b : VariableBounds) (range range' : Float × Float), variableBounds p = .ok b ∧
    p.variableLower.entries[i]? = some range.1 ∧ p.variableUpper.entries[i]? = some range.2 ∧
      b.lower.entries[i]? = some range'.1 ∧ b.upper.entries[i]? = some range'.2 ∧
        (p.categories.entries[i]? = some .binary → IsUnitPart range range') ∧
          (p.categories.entries[i]? ≠ some .binary → range' = range)

variable {ps : Positions} {rows : List Row} {objective : Option Expr}

theorem classifies_problemWith (h : m.WellFormed) (hv : m.vars[i]? = some v) :
    Classifies (m.problemWith ps rows objective) m i v := by
  have hcategory : (m.problemWith ps rows objective).categories.entries[i]? =
      some (m.variableCategory v) := by
    simp [Model.problemWith, Grid.ofList, hv]
  have hlower : (m.problemWith ps rows objective).variableLower.entries[i]? =
      some (m.variableRange v).1 := by
    simp [Model.problemWith, Grid.ofList, hv]
  have hupper : (m.problemWith ps rows objective).variableUpper.entries[i]? =
      some (m.variableRange v).2 := by
    simp [Model.problemWith, Grid.ofList, hv]
  obtain ⟨b, hb⟩ :=
    exists_variableBounds (masksFit_of_vectors (m.problemWith_hasLengths ps rows objective))
  have hbounds := (variableBounds_eq_ok hb).2
  have hlower' := getElem?_lowerBounds hcategory hlower
  have hupper' := getElem?_upperBounds hcategory hupper
  rw [← hbounds.lower_entries] at hlower'
  rw [← hbounds.upper_entries] at hupper'
  refine ⟨fun hinteger => ?_, fun hinteger hbinary => ?_, fun hinteger hbinary => ?_, b,
    m.variableRange v, (effectiveLower _ _, effectiveUpper _ _), hb, hlower, hupper, hlower',
    hupper', fun hbinary => ?_, fun hother => ?_⟩
  · rw [hcategory, h.variableCategory, if_pos hinteger]
  · rw [hcategory, h.variableCategory, if_neg hinteger, if_pos hbinary]
  · rw [hcategory, h.variableCategory, if_neg hinteger, if_neg hbinary]
  · rw [hcategory] at hbinary
    rw [Option.some.inj hbinary]
    obtain ⟨hnumber, hnumber'⟩ := h.variableRange_isNaN v
    exact isUnitPart_effective hnumber hnumber'
  · rw [hcategory] at hother
    have hne : m.variableCategory v ≠ .binary := fun heq => hother (congrArg some heq)
    rw [effectiveLower, effectiveUpper, if_neg hne, if_neg hne]

end Numeric

/--
In every model that edits lead to, the category of a variable follows from the constraints on it,
and only the bounds of binary variables are cut down for minimizers.
-/
theorem Model.Reachable.classified {m : Model} (h : m.Reachable) : ∃ p, m.problem = .ok p ∧
    ∀ i v, m.vars[i]? = some v → Numeric.Classifies p m i v := by
  obtain ⟨ps, rows, objective, -, -, hp⟩ := h.wellFormed.exists_problem
  exact ⟨_, hp, fun i v hv => Numeric.classifies_problemWith h.wellFormed hv⟩

/-- Two variables from minus one to two. Both become integers before they become binary. -/
def Model.oneInteger : Model :=
  empty.performAll [.addVariables 2,
    .addConstraint (.function (.single ⟨1⟩)) .integer,
    .addConstraint (.function (.single ⟨2⟩)) .integer,
    .addConstraint (.function (.single ⟨1⟩)) .zeroOne,
    .addConstraint (.function (.single ⟨2⟩)) .zeroOne,
    .addConstraint (.function (.single ⟨1⟩))
      (.interval ⟨-1, rfl⟩ ⟨2, Numeric.isNaN_two⟩ (by decide)),
    .addConstraint (.function (.single ⟨2⟩))
      (.interval ⟨-1, rfl⟩ ⟨2, Numeric.isNaN_two⟩ (by decide)),
    .deleteConstraint ⟨2, .single, .integer⟩]

/-- The second one is no longer an integer, so it is binary. -/
theorem Model.classified_oneInteger : ∃ p b, oneInteger.problem = .ok p ∧
    Numeric.variableBounds p = .ok b ∧
    p.categories.entries[0]? = some .integer ∧ b.lower.entries[0]? = some (-1 : Float) ∧
    p.categories.entries[1]? = some .binary ∧ b.lower.entries[1]? = some 0 := by
  have hreachable : oneInteger.Reachable := Reachable.empty.performAll _
  obtain ⟨p, hp, hclassified⟩ := hreachable.classified
  have hfirst := hclassified 0 ⟨1⟩ rfl
  have hsecond := hclassified 1 ⟨2⟩ rfl
  have hinteger := hfirst.integer ⟨_, .head _, rfl, rfl⟩
  have hbinary : p.categories.entries[1]? = some .binary := by
    refine hsecond.binary ?_ ⟨_, .tail _ (.tail _ (.head _)), rfl, rfl⟩
    rintro ⟨c, hc, hfunction, hregion⟩
    have hfirst : ∀ c ∈ oneInteger.constraints, c.region.kind = .integer →
        c.function.vars = [⟨1⟩] := by decide
    have hvars := hfirst c hc (hregion ▸ rfl)
    rw [hfunction] at hvars
    exact absurd hvars (by decide)
  have hbounds : p.variableLower.entries = [-1, -1] := by
    cases hp
    rfl
  obtain ⟨b, range, range', hb, hlower, -, hlower', -, -, hsame⟩ := hfirst.bounds
  refine ⟨p, b, hp, hb, hinteger, ?_, hbinary, ?_⟩
  · rw [hlower', hsame (by simp [hinteger]), ← hlower, hbounds]
    rfl
  · obtain ⟨b', range, range', hb', hlower, -, hlower', -, hpart, -⟩ := hsecond.bounds
    cases hb.symm.trans hb'
    rw [hbounds] at hlower
    rw [hlower', (hpart hbinary).lower, ← Option.some.inj hlower]
    rfl

end Extremum
