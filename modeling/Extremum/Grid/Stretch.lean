import Extremum.Grid.Basic

/-!
# Grids combined cell by cell

Grids are combined cell by cell, their last dimensions together. A dimension of length one, or one
that only another grid has, is stretched to the length that it has there.
-/

namespace Extremum

/-! ## Shapes -/

/-- A shape with dimensions of length one in front, up to a number of dimensions. -/
def padded (rank : Nat) (shape : List Nat) : List Nat :=
  List.replicate (rank - shape.length) 1 ++ shape

/-- The lengths that the dimensions of two shapes are stretched to, if there are as many of them. -/
def commonLengths? : List Nat → List Nat → Option (List Nat)
  | m :: ms, n :: ns =>
    if m = n ∨ n = 1 then (commonLengths? ms ns).map (m :: ·)
    else if m = 1 then (commonLengths? ms ns).map (n :: ·)
    else none
  | _, _ => some []

/-- The shape that two shapes are stretched to. -/
def commonShape? (shape shape' : List Nat) : Option (List Nat) :=
  let rank := max shape.length shape'.length
  commonLengths? (padded rank shape) (padded rank shape')

/-- The dimensions of a shape have, or are stretched to, the lengths of as many others. -/
inductive Stretches : List Nat → List Nat → Prop
  | nil : Stretches [] []
  | cons {m n : Nat} {shape target : List Nat} :
    m = n ∨ m = 1 → Stretches shape target → Stretches (m :: shape) (n :: target)

/-- A shape is stretched to another one, which may have more dimensions in front. -/
def StretchesTo (shape target : List Nat) : Prop := Stretches (padded target.length shape) target

theorem length_padded {rank : Nat} {shape : List Nat} (h : shape.length ≤ rank) :
    (padded rank shape).length = rank := by
  rw [padded, List.length_append, List.length_replicate]
  omega

theorem cellCount_padded (rank : Nat) (shape : List Nat) :
    cellCount (padded rank shape) = cellCount shape := by
  unfold padded
  induction rank - shape.length with
  | zero => rfl
  | succ k ih =>
      rw [List.replicate_succ]
      exact (Nat.one_mul _).trans ih

theorem stretches_commonLengths? {ms ns target : List Nat} (hlength : ms.length = ns.length)
    (h : commonLengths? ms ns = some target) : Stretches ms target ∧ Stretches ns target := by
  induction ms generalizing ns target with
  | nil =>
      cases List.eq_nil_of_length_eq_zero hlength.symm
      cases h
      exact ⟨.nil, .nil⟩
  | cons m ms ih =>
      cases ns with
      | nil => cases hlength
      | cons n ns =>
          rw [commonLengths?] at h
          split at h
          · rename_i hmn
            obtain ⟨lengths, hlengths, rfl⟩ := Option.map_eq_some_iff.1 h
            obtain ⟨hms, hns⟩ := ih (Nat.succ.inj hlength) hlengths
            exact ⟨.cons (.inl rfl) hms, .cons (hmn.imp_left Eq.symm) hns⟩
          split at h
          · rename_i hm
            obtain ⟨lengths, hlengths, rfl⟩ := Option.map_eq_some_iff.1 h
            obtain ⟨hms, hns⟩ := ih (Nat.succ.inj hlength) hlengths
            exact ⟨.cons (.inr hm) hms, .cons (.inl rfl) hns⟩
          · cases h

theorem Stretches.length_eq {shape target : List Nat} (h : Stretches shape target) :
    shape.length = target.length := by
  induction h with
  | nil => rfl
  | cons _ _ ih => exact congrArg (· + 1) ih

theorem stretchesTo_commonShape? {shape shape' target : List Nat}
    (h : commonShape? shape shape' = some target) :
    StretchesTo shape target ∧ StretchesTo shape' target := by
  have hlength := length_padded (Nat.le_max_left shape.length shape'.length)
  have hlength' := length_padded (Nat.le_max_right shape.length shape'.length)
  obtain ⟨hs, hs'⟩ := stretches_commonLengths? (hlength.trans hlength'.symm) h
  have hrank := hlength.symm.trans hs.length_eq
  unfold StretchesTo
  rw [← hrank]
  exact ⟨hs, hs'⟩

theorem Stretches.trans {shape target target' : List Nat} (h : Stretches shape target)
    (h' : Stretches target target') : Stretches shape target' := by
  induction h generalizing target' with
  | nil => exact h'
  | cons hm _ ih =>
      cases h' with
      | cons hn h' => exact .cons (by omega) (ih h')

theorem Stretches.ones_append {shape target : List Nat} (h : Stretches shape target) (k : Nat) :
    Stretches (List.replicate k 1 ++ shape) (List.replicate k 1 ++ target) := by
  induction k with
  | zero => exact h
  | succ k ih => exact .cons (.inl rfl) ih

theorem StretchesTo.trans {shape target target' : List Nat} (h : StretchesTo shape target)
    (h' : StretchesTo target target') : StretchesTo shape target' := by
  have hle : shape.length ≤ target.length := by
    have := h.length_eq
    rw [padded, List.length_append, List.length_replicate] at this
    omega
  have hle' : target.length ≤ target'.length := by
    have := h'.length_eq
    rw [padded, List.length_append, List.length_replicate] at this
    omega
  have hpadded : padded target'.length shape =
      List.replicate (target'.length - target.length) 1 ++ padded target.length shape := by
    unfold padded
    rw [← List.append_assoc, List.replicate_append_replicate]
    congr 2
    omega
  unfold StretchesTo
  rw [hpadded]
  exact (h.ones_append _).trans h'

/-! ## Entries -/

namespace Grid

variable {α β γ δ : Type}

/-- Entries arranged in a shape, stretched to another shape with as many dimensions. -/
def stretchedEntries : List Nat → List Nat → List α → List α
  | m :: shape, n :: target, entries =>
    let size := cellCount shape
    let block := fun i => stretchedEntries shape target ((entries.drop (i * size)).take size)
    if m = 1 then (List.replicate n (block 0)).flatten else (List.range m).flatMap block
  | _, _, entries => entries

/-- The entries of a grid stretched to a shape with at least as many dimensions. -/
def stretched (g : Grid α) (target : List Nat) : List α :=
  stretchedEntries (padded target.length g.shape) target g.entries

theorem length_flatMap_range {f : Nat → List α} {size : Nat} (m : Nat)
    (h : ∀ i < m, (f i).length = size) : ((List.range m).flatMap f).length = m * size := by
  induction m with
  | zero => rw [Nat.zero_mul]; rfl
  | succ m ih =>
      rw [List.range_succ, List.flatMap_append, List.length_append,
        ih fun i hi => h i (Nat.lt_succ_of_lt hi), List.flatMap_singleton, h m (Nat.lt_succ_self m),
        Nat.succ_mul]

/-- A block of entries, counted from zero, is as long as it should be. -/
theorem length_block {entries : List α} {m size i : Nat} (h : entries.length = m * size)
    (hi : i < m) : ((entries.drop (i * size)).take size).length = size := by
  have hle : (i + 1) * size ≤ m * size := Nat.mul_le_mul_right size hi
  rw [Nat.succ_mul] at hle
  rw [List.length_take, List.length_drop, h]
  omega

theorem length_stretchedEntries {shape target : List Nat} {entries : List α}
    (hshape : Stretches shape target) (h : entries.length = cellCount shape) :
    (stretchedEntries shape target entries).length = cellCount target := by
  induction hshape generalizing entries with
  | nil => exact h
  | @cons m n shape target hm _ ih =>
      have hblock : ∀ i < m, (stretchedEntries shape target
          ((entries.drop (i * cellCount shape)).take (cellCount shape))).length =
            cellCount target := fun i hi => ih (length_block h hi)
      unfold stretchedEntries
      dsimp only
      split
      · rename_i hone
        rw [List.length_flatten, List.map_replicate, List.sum_replicate_nat,
          hblock 0 (by omega)]
        rfl
      · rename_i hone
        rw [length_flatMap_range m hblock, hm.resolve_right hone]
        rfl

theorem length_stretched {g : Grid α} {target : List Nat} (h : StretchesTo g.shape target) :
    (g.stretched target).length = cellCount target :=
  length_stretchedEntries h (g.filled.trans (cellCount_padded _ _).symm)

/-! ## Combining grids -/

/-- Two grids combined cell by cell. -/
def combine (f : α → β → γ) (g : Grid α) (h : Grid β) : Except Fault (Grid γ) :=
  match hshape : commonShape? g.shape h.shape with
  | some shape => .ok {
      shape := shape
      entries := List.zipWith f (g.stretched shape) (h.stretched shape)
      filled := by
        obtain ⟨hg, hh⟩ := stretchesTo_commonShape? hshape
        rw [List.length_zipWith, length_stretched hg, length_stretched hh, Nat.min_self] }
  | none => .error (.unevenShapes [g.shape, h.shape])

/-- Three grids combined cell by cell. -/
def combineThree (f : α → β → γ → δ) (g : Grid α) (h : Grid β) (k : Grid γ) :
    Except Fault (Grid δ) :=
  match hshape : (commonShape? g.shape h.shape).bind (commonShape? · k.shape) with
  | some shape => .ok {
      shape := shape
      entries := List.zipWith (fun (a, b) c => f a b c)
        ((g.stretched shape).zip (h.stretched shape)) (k.stretched shape)
      filled := by
        obtain ⟨common, hcommon, hshape⟩ := Option.bind_eq_some_iff.1 hshape
        obtain ⟨hg, hh⟩ := stretchesTo_commonShape? hcommon
        obtain ⟨hall, hk⟩ := stretchesTo_commonShape? hshape
        rw [List.length_zipWith, List.length_zip, length_stretched (hg.trans hall),
          length_stretched (hh.trans hall), length_stretched hk, Nat.min_self, Nat.min_self] }
  | none => .error (.unevenShapes [g.shape, h.shape, k.shape])

end Grid

end Extremum
