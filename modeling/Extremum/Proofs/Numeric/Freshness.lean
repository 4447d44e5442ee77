import Extremum.Numeric.Solve
import Extremum.Problem.Assembly
import Extremum.Proofs.Model.Edit
import Extremum.Proofs.Numeric.Cache
import Mathlib.Data.List.Induction

/-!
# When kept values show

The reply to a question about constraints is the one that a fresh evaluation gives, unless the point
repeats the last new one. Then it is made from the values that were computed last. These are others
than those at the point if the constraints failed at the last new point, or if they tell zeros of
different signs apart.
-/

namespace Extremum.Numeric

/-! ## Replies made afresh -/

namespace Question

def point : Question → List Float
  | objective x | row _ x | values x => x

def concernsConstraints : Question → Bool
  | objective _ => false
  | row _ _ | values _ => true

end Question

namespace Functions

/-- The reply to a question, given the values of the constraints or why they have none. -/
def replyFrom (f : Functions) (values : Except Fault (List Float)) : Question → Reply
  | .objective x => (f.objective x).map fun y => [f.sign * y]
  | .values _ => values
  | .row i _ =>
    match values, f.rows[i]? with
    | .ok values, some row => (row.valueAt values).map ([·])
    | .ok _, none => .error (.outOfBounds i f.rows.length)
    | .error fault, _ => .error fault

def freshValues (f : Functions) (x : List Float) : Except Fault (List Float) :=
  f.constraints.mapM (· x)

/-- The reply to a question when all constraints are evaluated for it. -/
def freshReply (f : Functions) (q : Question) : Reply :=
  f.replyFrom (f.freshValues q.point) q

end Functions

/-! ## What is kept after questions -/

/-- The point equals the last one of a list. -/
def repeats (points : List (List Float)) (x : List Float) : Bool :=
  points.getLast?.any (ConstraintCache.samePoint x)

/-- The points of questions about constraints, but for those that repeat the last new point. -/
def newPoints (qs : List Question) : List (List Float) :=
  qs.foldl (fun points q =>
    if q.concernsConstraints && !repeats points q.point then points ++ [q.point] else points) []

namespace Functions

/-- The values at the last of some points where the constraints have any. -/
def lastValues (f : Functions) (points : List (List Float)) : Option (List Float) :=
  (points.filterMap fun x => (f.freshValues x).toOption).getLast?

/-- The question repeats the last new point, and the last values lead to another reply. -/
def IsMisled (f : Functions) (qs : List Question) (q : Question) : Prop :=
  q.concernsConstraints = true ∧ repeats (newPoints qs) q.point = true ∧
    f.replyFrom ((f.lastValues (newPoints qs)).elim (.error .nothingCached) .ok) q ≠
      f.freshReply q

def cacheAfter (f : Functions) (c : ConstraintCache) (qs : List Question) : ConstraintCache :=
  qs.foldl (fun c q => (f.reply q c).2) c

end Functions

variable {f : Functions} {c : ConstraintCache} {q : Question} {qs : List Question}
  {x : List Float}

theorem ConstraintCache.valuesAt_of_holds (h : c.holds x = true) :
    c.valuesAt f.constraints x = (c.values.elim (.error .nothingCached) .ok, c) := by
  rw [valuesAt, if_pos h]
  cases c.values <;> rfl

theorem ConstraintCache.valuesAt_of_not_holds (h : c.holds x = false) :
    c.valuesAt f.constraints x =
      (f.freshValues x, ⟨some x, (f.freshValues x).toOption.or c.values⟩) := by
  rw [valuesAt, h, if_neg Bool.false_ne_true, Functions.freshValues]
  cases f.constraints.mapM (· x) <;> rfl

theorem holds_eq_repeats {points : List (List Float)} {values : Option (List Float)} :
    ConstraintCache.holds ⟨points.getLast?, values⟩ x = repeats points x := by
  rw [ConstraintCache.holds, repeats]
  cases points.getLast? <;> rfl

theorem newPoints_concat : newPoints (qs ++ [q]) =
    if q.concernsConstraints && !repeats (newPoints qs) q.point then newPoints qs ++ [q.point]
    else newPoints qs := by
  simp [newPoints]

namespace Functions

theorem reply_of_concernsConstraints (h : q.concernsConstraints = true) :
    f.reply q c = (f.replyFrom (c.valuesAt f.constraints q.point).1 q,
      (c.valuesAt f.constraints q.point).2) := by
  cases q with
  | objective x => cases h
  | values x => rfl
  | row i x =>
      simp only [reply, replyFrom, Question.point]
      rcases c.valuesAt f.constraints x with ⟨fault | values, next⟩ <;> cases f.rows[i]? <;> rfl

theorem reply_of_not_concernsConstraints (h : q.concernsConstraints = false) :
    f.reply q c = (f.freshReply q, c) := by
  cases q with
  | objective x => rfl
  | values x => cases h
  | row i x => cases h

theorem cacheAfter_cons :
    f.cacheAfter c (q :: qs) = f.cacheAfter (f.reply q c).2 qs := rfl

theorem cacheAfter_concat : f.cacheAfter c (qs ++ [q]) = (f.reply q (f.cacheAfter c qs)).2 := by
  simp [cacheAfter]

theorem cacheAfter_empty :
    f.cacheAfter .empty qs = ⟨(newPoints qs).getLast?, f.lastValues (newPoints qs)⟩ := by
  induction qs using List.reverseRecOn with
  | nil => rfl
  | append_singleton qs q ih =>
      rw [cacheAfter_concat, ih, newPoints_concat]
      cases hq : q.concernsConstraints with
      | false =>
          rw [reply_of_not_concernsConstraints hq]
          rfl
      | true =>
          rw [reply_of_concernsConstraints hq]
          cases hrepeats : repeats (newPoints qs) q.point with
          | true =>
              rw [ConstraintCache.valuesAt_of_holds (holds_eq_repeats.trans hrepeats)]
              rfl
          | false =>
              -- the point is kept in any case, its values only if there are any
              rw [ConstraintCache.valuesAt_of_not_holds (holds_eq_repeats.trans hrepeats)]
              simp [lastValues, List.getLast?_append]

/-- A reply is fresh exactly if the question is not misled by those before it. -/
theorem reply_eq_freshReply_iff :
    (f.reply q (f.cacheAfter .empty qs)).1 = f.freshReply q ↔ ¬ f.IsMisled qs q := by
  rw [cacheAfter_empty, IsMisled]
  cases hq : q.concernsConstraints with
  | false => simp [reply_of_not_concernsConstraints hq]
  | true =>
      rw [reply_of_concernsConstraints hq]
      cases hrepeats : repeats (newPoints qs) q.point with
      | true => simp [ConstraintCache.valuesAt_of_holds (holds_eq_repeats.trans hrepeats)]
      | false =>
          simp [ConstraintCache.valuesAt_of_not_holds (holds_eq_repeats.trans hrepeats), freshReply]

/-- Only a failure at the last new point, or equal entries of other signs, can mislead. -/
theorem IsMisled.cause (h : f.IsMisled qs q) :
    ∃ x, (newPoints qs).getLast? = some x ∧ ConstraintCache.samePoint q.point x = true ∧
      ((∃ fault, f.freshValues x = .error fault) ∨ q.point ≠ x) := by
  obtain ⟨-, hrepeats, hreply⟩ := h
  obtain ⟨x, hx, hsame⟩ := (Option.any_eq_true ..).1 hrepeats
  refine ⟨x, hx, hsame, ?_⟩
  by_contra hcause
  rw [not_or, not_exists, not_ne_iff] at hcause
  obtain ⟨hok, rfl⟩ := hcause
  refine hreply ?_
  obtain ⟨points, hpoints⟩ := List.getLast?_eq_some_iff.1 hx
  cases hvalues : f.freshValues q.point with
  | error fault => exact absurd hvalues (hok fault)
  | ok values => simp [lastValues, freshReply, hpoints, hvalues, Except.toOption]

end Functions

/-! ## Replies of a run -/

theorem Dialogue.reply_of_transcript {α : Type} {d : Dialogue α} {before after : Transcript}
    {e : Question × Reply} (h : (d.run f c).transcript = before ++ e :: after) :
    e.2 = (f.reply e.1 (f.cacheAfter c (before.map (·.1)))).1 := by
  induction d generalizing c before with
  | finish result => simp [run] at h
  | fail fault => simp [run] at h
  | ask q next ih =>
      cases before with
      | nil =>
          cases (List.cons.inj h).1
          rfl
      | cons e' before =>
          obtain ⟨rfl, hrest⟩ := List.cons.inj h
          rw [List.map_cons, Functions.cacheAfter_cons]
          exact ih _ hrest

/--
Whatever a minimizer asks for, its replies are those of fresh evaluations if and only if no question
of it is misled by those before it.
-/
theorem Dialogue.fresh_iff {α : Type} (f : Functions) (d : Dialogue α) :
    (∀ e ∈ (d.run f .empty).transcript, e.2 = f.freshReply e.1) ↔
      ∀ before e after, (d.run f .empty).transcript = before ++ e :: after →
        ¬ f.IsMisled (before.map (·.1)) e.1 := by
  constructor
  · intro h before e after htranscript
    rw [← Functions.reply_eq_freshReply_iff, ← reply_of_transcript htranscript]
    exact h e (by simp [htranscript])
  · intro h e he
    obtain ⟨before, after, htranscript⟩ := List.append_of_mem he
    rw [reply_of_transcript htranscript]
    exact Functions.reply_eq_freshReply_iff.2 (h before e after htranscript)

/-- A model of one variable whose inverse must not be negative. -/
def inverse : Model :=
  Model.empty.performAll [.addVariable, .setBlock (some
    ⟨.ofExprs 0 none [.binary .div (.constant 1) (.reference ⟨1⟩)] [expressionGraphs],
      [(0, 1.0 / 0.0)], false⟩)]

/-- A minimizer that asks for the values of all constraints at some points. -/
def asking (points : List (List Float)) : Minimizer := fun _ =>
  points.foldr (fun x rest => .ask (.values x) fun _ => rest) (.finish emptyOutcome)

/-- At negative zero, the reply is the one that was kept for zero. -/
theorem not_fresh_inverse :
    ∃ p b r f e, inverse.problem = .ok p ∧ variableBounds p = .ok b ∧
      request .default .trustConstr p b = .ok r ∧ functions p .initial = .ok f e ∧
      ¬ ∀ a ∈ ((asking [[0], [-0.0]] r).run f .empty).transcript, a.2 = f.freshReply a.1 := by
  refine ⟨_, _, _, _, _, rfl, rfl, rfl, rfl, fun h => ?_⟩
  have hreply : (.ok [1 / 0] : Reply) = .ok [1 / -0.0] :=
    h (.values [-0.0], .ok [1 / 0]) (.tail _ (.head _))
  have hvalue : (1 / 0 : Float) = 1 / -0.0 := (List.cons.inj (Except.ok.inj hreply)).1
  exact absurd (congrArg (0 < ·) hvalue) (by decide)

end Extremum.Numeric
