import Extremum.Numeric.Method
import Extremum.Proofs.Success

/-!
# Which problems fit a method

A method takes a problem if it supports every feature that the problem makes use of, and if the
problem makes use of every feature that the method requires. Else it refuses the problem.
-/

namespace Extremum

/-- The faults by which problems and settings are refused as not provided for. -/
def Fault.IsRefusal : Fault → Prop
  | .unsupportedMethod _ => True
  | .featureUnsupported _ _ => True
  | .featureRequired _ _ => True
  | .finiteBoundsRequired _ => True
  | .foreign kind _ => kind = .other "NotImplementedError"
  | _ => False

/-- There is no result, because something is not provided for. -/
def IsRefused {α : Type} : Except Fault α → Prop
  | .ok _ => False
  | .error fault => fault.IsRefusal

theorem isRefused_iff_ne_ok {x : Except Fault Unit}
    (h : ∀ fault, x = .error fault → fault.IsRefusal) : IsRefused x ↔ x ≠ .ok () := by
  cases x with
  | error fault => exact iff_of_true (h fault rfl) nofun
  | ok u => exact iff_of_false id fun hne => hne rfl

theorem isRefused_bind_iff {α β : Type} {x : Except Fault α} {g : α → Except Fault β} :
    IsRefused (x >>= g) ↔ IsRefused x ∨ ∃ a, x = .ok a ∧ IsRefused (g a) := by
  cases x with
  | error fault => simp [bind, Except.bind, IsRefused]
  | ok a => simp [bind, Except.bind, IsRefused]

/-- Grids that cannot be combined are no reason for a refusal. -/
theorem Grid.not_isRefused_combine {α β γ : Type} (h : α → β → γ) (g : Grid α) (g' : Grid β) :
    ¬ IsRefused (g.combine h g') := by
  unfold combine
  split <;> exact id

theorem Problem.not_isRefused_equalityFlags (p : Problem) : ¬ IsRefused p.equalityFlags := by
  unfold equalityFlags
  rw [isRefused_bind_iff]
  rintro (h | ⟨flags, -, h⟩)
  · exact Grid.not_isRefused_combine _ _ _ h
  · exact h

namespace Numeric.Method

/-- A method can do with a feature that is used, or without one that is not. -/
def Fits (m : Method) (f : Feature) (isUsed : Bool) : Prop :=
  if isUsed then m ∈ supporting f else m ∉ requiring f

instance (m : Method) (f : Feature) (isUsed : Bool) : Decidable (m.Fits f isUsed) := by
  unfold Fits
  infer_instance

/-- The fault of a feature that does not fit. -/
def featureFault (m : Method) (f : Feature) (isUsed : Bool) : Fault :=
  if isUsed then .featureUnsupported m.name f.text else .featureRequired m.name f.text

theorem isRefusal_featureFault (m : Method) (f : Feature) (isUsed : Bool) :
    (m.featureFault f isUsed).IsRefusal := by
  unfold featureFault
  split <;> trivial

/-- No two methods have names that differ only in case. -/
theorem check_eq (m : Method) (f : Feature) (isUsed : Bool) :
    f.check isUsed m.name (fun f => (supporting f).map name) (fun f => (requiring f).map name) =
      if m.Fits f isUsed then .ok () else .error (m.featureFault f isUsed) := by
  cases m <;> cases f <;> cases isUsed <;> rfl

/-- The features of a problem are known, and all of them fit. -/
def Takes (m : Method) (p : Problem) : Prop :=
  ∃ flags, p.equalityFlags = .ok flags ∧ ∀ f, m.Fits f (p.uses flags f)

theorem checkFeatures_eq_ok {m : Method} {p : Problem} :
    m.checkFeatures p = .ok () ↔ m.Takes p := by
  unfold checkFeatures Problem.checkFeatures Takes
  rw [bind_eq_ok]
  refine exists_congr fun flags => and_congr_right fun _ => ?_
  rw [forM_eq_ok]
  constructor
  · intro h f
    have hf := h f (by cases f <;> decide)
    rw [check_eq] at hf
    exact of_not_not fun hfits => by rw [if_neg hfits] at hf; cases hf
  · intro h f _
    rw [check_eq, if_pos (h f)]

/-- A problem is refused if one of its features does not fit. -/
theorem isRefused_checkFeatures_iff {m : Method} {p : Problem} :
    IsRefused (m.checkFeatures p) ↔ (∃ flags, p.equalityFlags = .ok flags) ∧ ¬ m.Takes p := by
  rw [← checkFeatures_eq_ok]
  unfold checkFeatures Problem.checkFeatures
  cases hflags : p.equalityFlags with
  | error fault =>
      have hfault := p.not_isRefused_equalityFlags
      rw [hflags] at hfault
      exact iff_of_false hfault fun h => by cases h.1.choose_spec
  | ok flags =>
      refine Iff.trans ?_ (and_iff_right ⟨flags, rfl⟩).symm
      refine isRefused_iff_ne_ok fun fault hall => ?_
      obtain ⟨f, -, hf⟩ := exists_of_forM_error hall
      rw [check_eq] at hf
      split at hf <;> cases hf
      exact isRefusal_featureFault m f _

end Numeric.Method

end Extremum
