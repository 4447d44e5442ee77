import Extremum.Proofs.Optimizer.Session

/-!
# Failed edits

An edit that fails leaves the optimizer as it is, with one exception: the objective is replaced
although the value for its sense stands for none. The snapshot of the last solve then stays, too,
and belongs to an objective that the model no longer has.
-/

namespace Extremum

namespace Optimizer

/-- A failed edit does to an optimizer what it does to the model. -/
theorem perform_eq_error {o o' : Optimizer} {e : Edit} {fault : Fault} :
    o.perform e = (.error fault, o') ↔
      ∃ m, o.model.perform e = (.error fault, m) ∧ o' = { o with model := m } := by
  rw [perform_eq]
  rcases o.model.perform e with ⟨fault' | _, m⟩
  · simp [withOutcome, Except.isOk, Except.toBool, eq_comm]
  · simp [withOutcome]

/--
An edit that fails changes an optimizer if and only if it sets another objective, over variables of
the model, with a value that stands for no sense; then it changes just the objective. Whatever else
fails leaves the optimizer as it is, be it an unknown variable or constraint, or a start value that
is no number.
-/
theorem failed_edit_changes_iff (o o' : Optimizer) (e : Edit) :
    (∃ fault, o.perform e = (.error fault, o')) ∧ o' ≠ o ↔
      ∃ f value, e = .setObjective (.function f) value ∧ (∀ v ∈ f.vars, v ∈ o.model.vars) ∧
        Sense.ofValue? value = none ∧ f ≠ o.model.objective ∧
        o' = { o with model := { o.model with objective := f } } := by
  constructor
  · rintro ⟨⟨fault, h⟩, hne⟩
    obtain ⟨m, hm, rfl⟩ := perform_eq_error.1 h
    have hchanged : m ≠ o.model := by
      rintro rfl
      exact hne rfl
    obtain ⟨f, value, he, hvars, hsense, hother, rfl⟩ :=
      Model.failed_perform_ne_iff.1 ⟨⟨fault, hm⟩, hchanged⟩
    exact ⟨f, value, he, hvars, hsense, hother, rfl⟩
  · rintro ⟨f, value, he, hvars, hsense, hother, rfl⟩
    obtain ⟨⟨fault, hm⟩, hchanged⟩ :=
      Model.failed_perform_ne_iff.2 ⟨f, value, he, hvars, hsense, hother, rfl⟩
    refine ⟨⟨fault, perform_eq_error.2 ⟨_, hm, rfl⟩⟩, fun hsame => hchanged ?_⟩
    exact congrArg model hsame

end Optimizer

namespace Session

/-- A model of one variable, which is to be small, and its solution. -/
def smallest : Session Unit :=
  let S : Session Unit := ⟨⟨.ofSettings .default, .initial, [], ()⟩, none⟩
  let S := (S.perform (.edit .addVariable)).2
  let S := (S.perform (.edit (.setObjective (.function (.affine [⟨1, ⟨1⟩⟩] 0)) (.text "min")))).2
  (S.perform (.optimize (uniform "Optimal" 7) (uniform_quiet _ _))).2

/-- Asks for the largest value, with a word that stands for no sense. -/
def misspelt : Edit := .setObjective (.function (.single ⟨1⟩)) (.text "maximise")

/-- The solution is kept although another objective is in place. -/
theorem failed_setObjective_smallest :
    let S := (smallest.perform (.edit misspelt)).2
    smallest.Reachable ∧
      (smallest.perform (.edit misspelt)).1 =
        .error (.unknownSense (Value.text "maximise").literal) ∧
      S.optimizer.model.objective ≠ smallest.optimizer.model.objective ∧
      S.optimizer.snapshot = smallest.optimizer.snapshot ∧ S.optimizer.snapshot ≠ none := by
  have hperform : smallest.optimizer.perform misspelt =
      (.error (.unknownSense (Value.text "maximise").literal), { smallest.optimizer with
        model := { smallest.optimizer.model with objective := .single ⟨1⟩ } }) :=
    Optimizer.perform_eq_error.2
      ⟨_, Model.perform_of_unknownSense (by decide +kernel) (by decide +kernel), rfl⟩
  have hkind : smallest.optimizer.model.objective.kind = .affine := by decide +kernel
  have hsnapshot : smallest.optimizer.snapshot.isSome = true := by decide +kernel
  refine ⟨(((Reachable.start _ _ _ _).perform _).perform _).perform _, ?_, ?_, ?_, ?_⟩ <;>
    simp only [Session.perform, hperform]
  · intro hsame
    exact absurd (hsame ▸ hkind) (by decide)
  · rfl
  · exact Option.isSome_iff_ne_none.1 hsnapshot

end Session

end Extremum
