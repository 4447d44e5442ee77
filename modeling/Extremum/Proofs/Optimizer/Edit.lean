import Extremum.Optimizer.Basic
import Extremum.Proofs.Model.WellFormed

/-!
# Edits of optimizers

An edit of an optimizer is an edit of its model. A successful one drops the snapshot, unless it only
concerns start values or adds no variable.
-/

namespace Extremum

/-- The edit changes variables, constraints, the objective or the nonlinear block if it succeeds. -/
def Edit.isChange : Edit → Bool
  | setStart _ _ | addVariables 0 => false
  | _ => true

/-- An edit that is no change leaves all but the start values as they are. -/
theorem Model.perform_of_not_isChange {e : Edit} (m : Model) (he : e.isChange = false) :
    (m.perform e).2 = { m with starts := (m.perform e).2.starts } := by
  cases e with
  | setStart v value =>
      rcases settled_cases m (m.setStart v value) with ⟨_, -, hs⟩ | ⟨m', hm', hs⟩
      · simp only [Model.perform, hs]
      · obtain ⟨-, _, -, rfl⟩ := setStart_eq_ok.1 hm'
        simp only [Model.perform, hs]
  | addVariables n =>
      cases n with
      | zero => rfl
      | succ n => cases he
  | _ => cases he

namespace Optimizer

/-- The outcome of an operation that leaves the optimizer as it is when it fails. -/
def settled (o : Optimizer) : Except Fault Optimizer → Except Fault Unit × Optimizer
  | .ok o' => (.ok (), o')
  | .error fault => (.error fault, o)

/-- The outcome of an edit and the optimizer after it. -/
def perform (o : Optimizer) : Edit → Except Fault Unit × Optimizer
  | .empty => (.ok (), o.empty)
  | .addVariable => (.ok (), o.addVariable.2)
  | .addVariables n => (.ok (), (o.addVariables n).2)
  | .deleteVariable v => o.settled (o.deleteVariable v)
  | .addConstraint f r => o.settled ((o.addConstraint f r).map (·.2))
  | .deleteConstraint id => o.settled (o.deleteConstraint id)
  | .setRegion id r => o.settled (o.setRegion id r)
  | .setObjective f sense => o.setObjective f sense
  | .setStart v value => o.settled (o.setStart v value)
  | .setBlock block => (.ok (), o.setBlock block)

/-- The optimizer after an edit with the given outcome for its model. -/
def withOutcome (o : Optimizer) (isChange : Bool) (outcome : Except Fault Unit × Model) :
    Except Fault Unit × Optimizer :=
  (outcome.1, { o with
    model := outcome.2
    snapshot := if isChange && outcome.1.isOk then none else o.snapshot })

theorem settled_edited (o : Optimizer) (result : Except Fault Model) :
    o.settled (do return o.edited (← result)) = o.withOutcome true (o.model.settled result) := by
  cases result <;> rfl

/-- What an edit does to an optimizer follows from what it does to the model. -/
theorem perform_eq (o : Optimizer) (e : Edit) :
    o.perform e = o.withOutcome e.isChange (o.model.perform e) := by
  cases e with
  | empty | addVariable | setBlock _ => rfl
  | addVariables n => cases n <;> rfl
  | deleteVariable v => exact o.settled_edited (o.model.deleteVariable v)
  | addConstraint f r =>
      simp only [perform, Model.perform, addConstraint]
      cases o.model.addConstraint f r <;> rfl
  | deleteConstraint id => exact o.settled_edited (o.model.deleteConstraint id)
  | setRegion id r => exact o.settled_edited (o.model.setRegion id r)
  | setObjective f value =>
      simp only [perform, Model.perform, setObjective]
      rcases o.model.setObjective f value with ⟨_ | _, m⟩ <;> rfl
  | setStart v value =>
      simp only [perform, Model.perform, setStart]
      cases o.model.setStart v value <;> rfl

variable {o : Optimizer} {e : Edit}

theorem perform_model (o : Optimizer) (e : Edit) :
    (o.perform e).2.model = (o.model.perform e).2 := by
  rw [perform_eq]
  rfl

theorem perform_inProgress (o : Optimizer) (e : Edit) :
    (o.perform e).2.inProgress = o.inProgress := by
  rw [perform_eq]
  rfl

/-- A successful change leaves no snapshot. -/
theorem perform_snapshot_of_isChange (he : e.isChange = true) (hok : (o.perform e).1 = .ok ()) :
    (o.perform e).2.snapshot = none := by
  rw [perform_eq] at hok ⊢
  have hok' : (o.model.perform e).1 = .ok () := hok
  simp only [withOutcome, he, hok', Except.isOk, Except.toBool, Bool.and_self, ↓reduceIte]

/-- An edit that is no change keeps the snapshot. -/
theorem perform_snapshot_of_not_isChange (he : e.isChange = false) :
    (o.perform e).2.snapshot = o.snapshot := by
  rw [perform_eq]
  simp only [withOutcome, he, Bool.false_and, Bool.false_eq_true, ↓reduceIte]

/-- After an edit there is no snapshot, or the one from before with the same variables. -/
theorem perform_snapshot_cases (o : Optimizer) (e : Edit) :
    (o.perform e).2.snapshot = none ∨
      ((o.perform e).2.snapshot = o.snapshot ∧ (o.perform e).2.model.vars = o.model.vars) := by
  rw [perform_model]
  cases he : e.isChange with
  | false =>
      refine .inr ⟨perform_snapshot_of_not_isChange he, ?_⟩
      rw [o.model.perform_of_not_isChange he]
  | true =>
      rw [perform_eq]
      cases hr : (o.model.perform e).1 with
      | ok u =>
          left
          simp only [withOutcome, he, hr, Except.isOk, Except.toBool, Bool.and_self, ↓reduceIte]
      | error fault =>
          right
          refine ⟨?_, by rw [Model.perform_of_error hr]⟩
          simp only [withOutcome, hr, Except.isOk, Except.toBool, Bool.and_false,
            Bool.false_eq_true, ↓reduceIte]

end Optimizer

end Extremum
