import Extremum.Numeric.Dialogue

/-!
# Kept values of constraints

Whatever a minimizer asks for, the values that are kept belong to the point seen last, if the
constraints have values there. Equal points need not be the same: they may differ in the signs of
zeros.
-/

namespace Extremum.Numeric

namespace ConstraintCache

variable {constraints : List Compiled} {c : ConstraintCache} {x values judged : List Float}

/-- If the constraints have values at the point seen last, then these are kept. -/
def Sound (constraints : List Compiled) (c : ConstraintCache) : Prop :=
  ∀ x values, c.point = some x → constraints.mapM (· x) = .ok values → c.values = some values

theorem Sound.empty : empty.Sound constraints := by
  intro x values hx
  cases hx

theorem Sound.valuesAt (h : c.Sound constraints) (x : List Float) :
    (c.valuesAt constraints x).2.Sound constraints := by
  unfold ConstraintCache.valuesAt
  split
  · split <;> exact h
  · split
    · rename_i values hvalues
      intro x' values' hx' hvalues'
      cases hx'
      rw [hvalues] at hvalues'
      cases hvalues'
      rfl
    · rename_i fault hfault
      intro x' values' hx' hvalues'
      cases hx'
      rw [hfault] at hvalues'
      cases hvalues'

/-- Other values than those at the point come only from an equal point. -/
theorem Sound.eq_or_holds (h : c.Sound constraints)
    (hjudged : (c.valuesAt constraints x).1 = .ok judged)
    (hvalues : constraints.mapM (· x) = .ok values) :
    judged = values ∨ c.holds x = true ∧ c.point ≠ some x := by
  cases hholds : c.holds x with
  | true =>
      by_cases hx : c.point = some x
      · refine .inl ?_
        have hkept := h x values hx hvalues
        rw [ConstraintCache.valuesAt, if_pos hholds, hkept] at hjudged
        cases hjudged
        rfl
      · exact .inr ⟨rfl, hx⟩
  | false =>
      refine .inl ?_
      rw [ConstraintCache.valuesAt, hholds, if_neg Bool.false_ne_true, hvalues] at hjudged
      cases hjudged
      rfl

end ConstraintCache

open ConstraintCache

variable {f : Functions} {c : ConstraintCache}

theorem Functions.reply_row_cache (i : Nat) (x : List Float) :
    (f.reply (.row i x) c).2 = (c.valuesAt f.constraints x).2 := by
  simp only [Functions.reply]
  rcases c.valuesAt f.constraints x with ⟨fault | values, next⟩
  · rfl
  · cases f.rows[i]? <;> rfl

theorem Functions.sound_reply (h : c.Sound f.constraints) (q : Question) :
    (f.reply q c).2.Sound f.constraints := by
  cases q with
  | objective x => exact h
  | values x => exact h.valuesAt x
  | row i x =>
      rw [f.reply_row_cache]
      exact h.valuesAt x

/-- All questions of a dialogue leave the cache sound. -/
theorem Dialogue.sound_run {α : Type} (d : Dialogue α) (h : c.Sound f.constraints) :
    (d.run f c).cache.Sound f.constraints := by
  induction d generalizing c with
  | finish result => exact h
  | fail fault => exact h
  | ask q next ih => exact ih _ (f.sound_reply h q)

end Extremum.Numeric
