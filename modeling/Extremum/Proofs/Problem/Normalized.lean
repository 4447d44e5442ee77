import Extremum.Problem.Normalized
import Extremum.Proofs.Grid.Stretch
import Extremum.Proofs.Number.Magnitude
import Extremum.Proofs.Problem.Limits
import Extremum.Proofs.Success

/-!
# What becomes of limits

Limits that are close make one equality; else each finite limit makes one inequality. The rows of a
constraint can be told from those of the others by their index.
-/

namespace Extremum

/-! ## Close limits -/

namespace Measure

/-- Limits are close if the magnitude of their difference is below `1e-15`. -/
theorem areClose_iff (lower upper : Float) :
    areClose lower upper = true ↔ (upper - lower).abs < 1e-15 := by
  have hunpack : (1e-15 : Float).toModel.unpack =
      .finite .positive 5070602400912918 (-102) (by decide) := rfl
  rw [Number.abs_lt_iff hunpack rfl (by decide)]
  show (decide _ && decide _) = true ↔ _
  rw [Bool.and_eq_true, decide_eq_true_iff, decide_eq_true_iff]
  rfl

end Measure

/-! ## Rows -/

namespace NormalRow

variable {α : Type} [Measure α] {lowers uppers : List α} {lower upper : α} {k i : Nat}
  {row : NormalRow α}

theorem index_of_mem_ofLimits (h : row ∈ ofLimits i lower upper) : row.index = i := by
  unfold ofLimits at h
  split at h
  · cases List.mem_singleton.1 h
    rfl
  · rcases List.mem_append.1 h with h | h <;> split at h
    · cases List.mem_singleton.1 h
      rfl
    · cases h
    · cases List.mem_singleton.1 h
      rfl
    · cases h

theorem index_of_mem_allFrom (h : row ∈ allFrom k lowers uppers) :
    k ≤ row.index ∧ row.index < k + lowers.length ∧ row.index < k + uppers.length := by
  induction lowers generalizing k uppers with
  | nil => cases h
  | cons lower lowers ih =>
      cases uppers with
      | nil => cases h
      | cons upper uppers =>
          rw [List.length_cons, List.length_cons]
          rcases List.mem_append.1 h with h | h
          · rw [index_of_mem_ofLimits h]
            omega
          · have := ih h
            omega

theorem index_of_mem_all (h : row ∈ all lowers uppers) :
    row.index < lowers.length ∧ row.index < uppers.length := by
  have := index_of_mem_allFrom h
  omega

/-- Of all rows, those with the index of a constraint are the ones made of its limits. -/
theorem filter_allFrom (hlower : lowers[i]? = some lower) (hupper : uppers[i]? = some upper) :
    (allFrom k lowers uppers).filter (·.index = k + i) = ofLimits (k + i) lower upper := by
  induction i generalizing k lowers uppers with
  | zero =>
      cases lowers with
      | nil => cases hlower
      | cons l lowers =>
          cases uppers with
          | nil => cases hupper
          | cons u uppers =>
              cases hlower
              cases hupper
              have hfirst : (ofLimits k lower upper).filter (·.index = k) =
                  ofLimits k lower upper :=
                List.filter_eq_self.2 fun row h => decide_eq_true (index_of_mem_ofLimits h)
              have hrest : (allFrom (k + 1) lowers uppers).filter (·.index = k) = [] := by
                refine List.filter_eq_nil_iff.2 fun row h => ?_
                have := index_of_mem_allFrom h
                simpa using (by omega : row.index ≠ k)
              show (ofLimits k lower upper ++ allFrom (k + 1) lowers uppers).filter
                (·.index = k) = _
              rw [List.filter_append, hfirst, hrest, List.append_nil]
              rfl
  | succ i ih =>
      cases lowers with
      | nil => cases hlower
      | cons l lowers =>
          cases uppers with
          | nil => cases hupper
          | cons u uppers =>
              have hfirst : (ofLimits k l u).filter (·.index = k + (i + 1)) = [] := by
                refine List.filter_eq_nil_iff.2 fun row h => ?_
                have := index_of_mem_ofLimits h
                simpa using (by omega : row.index ≠ k + (i + 1))
              show (ofLimits k l u ++ allFrom (k + 1) lowers uppers).filter
                (·.index = k + (i + 1)) = _
              rw [List.filter_append, hfirst, List.nil_append,
                (by omega : k + (i + 1) = k + 1 + i)]
              exact ih hlower hupper

theorem filter_all (hlower : lowers[i]? = some lower) (hupper : uppers[i]? = some upper) :
    (all lowers uppers).filter (·.index = i) = ofLimits i lower upper := by
  have h := filter_allFrom (k := 0) hlower hupper
  rwa [Nat.zero_add] at h

/-- The rows of a constraint hold an equality exactly if its limits are close. -/
theorem exists_equality_iff (hlower : lowers[i]? = some lower) (hupper : uppers[i]? = some upper) :
    (∃ row ∈ all lowers uppers, row.index = i ∧ row.isEquality = true) ↔
      Measure.areClose lower upper = true := by
  have hmem : ∀ row, row ∈ all lowers uppers ∧ row.index = i ↔ row ∈ ofLimits i lower upper := by
    intro row
    rw [← filter_all hlower hupper, List.mem_filter, decide_eq_true_iff]
  simp only [← and_assoc, hmem]
  unfold ofLimits
  split
  · rename_i hclose
    exact iff_of_true ⟨_, List.mem_singleton_self _, rfl⟩ hclose
  · rename_i hclose
    refine iff_of_false ?_ hclose
    rintro ⟨row, hrow, hequality⟩
    rcases List.mem_append.1 hrow with hrow | hrow <;> split at hrow
    · cases List.mem_singleton.1 hrow
      cases hequality
    · cases hrow
    · cases List.mem_singleton.1 hrow
      cases hequality
    · cases hrow

end NormalRow

/-! ## Limits in grids -/

theorem requireSingle_eq_ok {shape shape' : List Nat} (h : requireSingle shape shape' = .ok ()) :
    cellCount shape = 1 ∧ cellCount shape' = 1 := by
  unfold requireSingle at h
  split at h
  · cases h
  rename_i common hcommon
  split at h
  · cases h
  · rename_i hone
    obtain ⟨hto, hto'⟩ := stretchesTo_commonShape? hcommon
    rw [← cellCount_padded common.length shape, ← cellCount_padded common.length shape',
      ← Nat.dvd_one, ← Nat.dvd_one, ← hone]
    exact ⟨hto.cellCount_dvd, hto'.cellCount_dvd⟩
  · cases h

namespace NormalRow

variable {lower upper : Grid Float} {rows : List NormalRow}

/-- The rows that are made are those of all limits, and limits of one constraint meet. -/
theorem ofGrids_eq_ok (h : ofGrids lower upper = .ok rows) :
    rows = all lower.entries upper.entries ∧
      (lower.entries ≠ [] → SamePlacesMeet upper.shape lower.shape) := by
  unfold ofGrids at h
  dsimp only at h
  split at h
  · obtain ⟨_, hparts, h⟩ := bind_eq_ok.1 h
    obtain ⟨hupper, hlower⟩ := requireSingle_eq_ok hparts
    split at h
    · rename_i hcounts
      exact ⟨(pure_eq_ok.1 h).symm, fun _ => samePlacesMeet_of_parts hcounts.symm hupper hlower⟩
    · cases h
  · rename_i hnone
    split at h
    · rename_i hcounts
      refine ⟨(pure_eq_ok.1 h).symm, fun hne => absurd ?_ hne⟩
      have hzero : lower.shape.headD 1 = 0 := by omega
      refine List.eq_nil_of_length_eq_zero (lower.filled.trans ?_)
      cases hshape : lower.shape with
      | nil =>
          rw [hshape] at hzero
          cases hzero
      | cons n shape =>
          rw [hshape] at hzero
          rw [cellCount_cons, show n = 0 from hzero, Nat.zero_mul]
    · cases h

/-- Vectors of one length are taken entry by entry. -/
theorem ofGrids_of_vectors {n : Nat} (hlower : lower.shape = [n]) (hupper : upper.shape = [n]) :
    ofGrids lower upper = .ok (all lower.entries upper.entries) := by
  have hparts : requireSingle [] [] = .ok () := rfl
  unfold ofGrids
  rw [hlower, hupper]
  simp only [List.headD_cons, List.tail_cons, hparts, ↓reduceIte]
  split <;> rfl

end NormalRow

namespace Grid

theorem greatest_eq_ok {g : Grid Float} {x : Float} :
    g.greatest = .ok x ↔ g.entries ≠ [] ∧ x = Measure.greatest g.entries := by
  unfold greatest
  cases g.entries with
  | nil => exact iff_of_false nofun fun h => h.1 rfl
  | cons y ys =>
      rw [if_neg (by simp)]
      exact ⟨fun h => ⟨nofun, (Except.ok.inj h).symm⟩, fun h => congrArg _ h.2.symm⟩

/-- The worst of some values is found by comparing all that meet. -/
theorem violation_eq_ok {values lower upper : Grid Float} {x : Float} (h : values.entries ≠ []) :
    values.violation lower upper = .ok x ↔ ∃ below above,
      lower.combine Measure.shortfall values = .ok below ∧
        values.combine Measure.excess upper = .ok above ∧
          below.entries ≠ [] ∧ above.entries ≠ [] ∧ x = Measure.later (Measure.later
            (Measure.greatest below.entries) (Measure.greatest above.entries)) Measure.zero := by
  unfold violation
  rw [if_neg (by simpa using h)]
  simp only [bind_eq_ok, pure_eq_ok, greatest_eq_ok]
  constructor
  · rintro ⟨below, hbelow, above, habove, _, ⟨hne, rfl⟩, _, ⟨hne', rfl⟩, rfl⟩
    exact ⟨below, above, hbelow, habove, hne, hne', rfl⟩
  · rintro ⟨below, above, hbelow, habove, hne, hne', rfl⟩
    exact ⟨below, hbelow, above, habove, _, ⟨hne, rfl⟩, _, ⟨hne', rfl⟩, rfl⟩

/-- Limits for all values can be compared with them unless the shapes do not fit. -/
theorem violation_eq_error {values lower upper : Grid Float} {fault : Fault}
    (hlower : lower.size = values.size) (hupper : upper.size = values.size)
    (h : values.violation lower upper = .error fault) : ∃ shapes, fault = .unevenShapes shapes := by
  have hgreatest : ∀ {g : Grid Float}, g.entries ≠ [] → g.greatest ≠ .error fault := by
    intro g hg hfault
    rw [greatest_eq_ok.2 ⟨hg, rfl⟩] at hfault
    cases hfault
  unfold violation at h
  split at h
  · cases h
  rename_i hempty
  have hvalues : values.entries ≠ [] := fun hnil => hempty (by rw [hnil]; rfl)
  have hsize : 0 < values.size := List.length_pos_of_ne_nil hvalues
  have hlowers : lower.entries ≠ [] := List.ne_nil_of_length_pos (hsize.trans_eq hlower.symm)
  have huppers : upper.entries ≠ [] := List.ne_nil_of_length_pos (hsize.trans_eq hupper.symm)
  rcases bind_eq_error.1 h with h | ⟨below, hbelow, h⟩
  · exact ⟨_, combine_eq_error h⟩
  rcases bind_eq_error.1 h with h | ⟨above, habove, h⟩
  · exact ⟨_, combine_eq_error h⟩
  rcases bind_eq_error.1 h with h | ⟨_, -, h⟩
  · exact absurd h (hgreatest (combine_ne_nil hbelow hlowers hvalues))
  · exact absurd (error_of_bind_pure h) (hgreatest (combine_ne_nil habove hvalues huppers))

/-- Values and limits of one shape are compared entry by entry. -/
theorem violation_of_shape {values lower upper : Grid Float} (hlower : lower.shape = values.shape)
    (hupper : upper.shape = values.shape) : values.violation lower upper =
      .ok (Measure.violation values.entries lower.entries upper.entries) := by
  by_cases hvalues : values.entries = []
  · rw [violation, Measure.violation, hvalues]
    rfl
  · obtain ⟨below, hbelow, -, hbelowEntries⟩ := combine_of_shape Measure.shortfall hlower
    obtain ⟨above, habove, -, haboveEntries⟩ := combine_of_shape Measure.excess hupper.symm
    have hlength : lower.entries.length = values.entries.length := by
      rw [lower.filled, hlower, ← values.filled]
    have hlength' : upper.entries.length = values.entries.length := by
      rw [upper.filled, hupper, ← values.filled]
    have hpos := List.length_pos_of_ne_nil hvalues
    refine (violation_eq_ok hvalues).2 ⟨below, above, hbelow, habove, ?_, ?_, ?_⟩
    · rw [← List.length_pos_iff, hbelowEntries, List.length_zipWith]
      omega
    · rw [← List.length_pos_iff, haboveEntries, List.length_zipWith]
      omega
    · rw [hbelowEntries, haboveEntries, Measure.violation, if_neg (by simpa using hvalues)]

end Grid

end Extremum
