import Extremum.Grid.Stretch
import Mathlib

/-!
# Which entries meet

When grids are combined, every result comes from an entry of each. Entries at the same place meet if
nothing has to be stretched, and if all entries of one grid meet all entries of the other.
-/

namespace Extremum

/-! ## Common shapes -/

theorem commonLengths?_self (lengths : List Nat) :
    commonLengths? lengths lengths = some lengths := by
  induction lengths with
  | nil => rfl
  | cons n lengths ih => rw [commonLengths?, if_pos (.inl rfl), ih]; rfl

theorem commonLengths?_comm (ms ns : List Nat) : commonLengths? ms ns = commonLengths? ns ms := by
  induction ms generalizing ns with
  | nil => cases ns <;> rfl
  | cons m ms ih =>
      cases ns with
      | nil => rfl
      | cons n ns =>
          rw [commonLengths?, commonLengths?, ih ns]
          by_cases hmn : m = n
          · subst hmn
            rfl
          · have hnm : ¬ n = m := fun hnm => hmn hnm.symm
            by_cases hm : m = 1
            · subst hm
              simp only [hmn, hnm, or_false, or_true, ↓reduceIte]
            · simp only [hmn, hm, hnm, false_or, or_false, ↓reduceIte]

theorem padded_self (shape : List Nat) : padded shape.length shape = shape := by
  rw [padded, Nat.sub_self]
  rfl

theorem commonShape?_self (shape : List Nat) : commonShape? shape shape = some shape := by
  rw [commonShape?, Nat.max_self, padded_self]
  exact commonLengths?_self shape

theorem commonShape?_comm (shape shape' : List Nat) :
    commonShape? shape shape' = commonShape? shape' shape := by
  rw [commonShape?, commonShape?, Nat.max_comm, commonLengths?_comm]

theorem cellCount_cons (n : Nat) (shape : List Nat) :
    cellCount (n :: shape) = n * cellCount shape := rfl

theorem cellCount_append (shape shape' : List Nat) :
    cellCount (shape ++ shape') = cellCount shape * cellCount shape' := by
  induction shape with
  | nil => exact (Nat.one_mul _).symm
  | cons n shape ih => rw [List.cons_append, cellCount_cons, cellCount_cons, ih, Nat.mul_assoc]

theorem cellCount_ones (k : Nat) : cellCount (List.replicate k 1) = 1 := by
  induction k with
  | zero => rfl
  | succ k ih => exact (Nat.one_mul _).trans ih

theorem eq_ones_of_cellCount {shape : List Nat} (h : cellCount shape = 1) :
    shape = List.replicate shape.length 1 := by
  refine List.eq_replicate_of_mem fun n hn => Nat.dvd_one.1 ?_
  induction shape with
  | nil => cases hn
  | cons m shape ih =>
      rw [cellCount_cons] at h
      rcases List.mem_cons.1 hn with rfl | hn
      · exact Nat.dvd_one.2 (Nat.eq_one_of_mul_eq_one_right h)
      · exact ih (Nat.eq_one_of_mul_eq_one_left h) hn

/-- Dimensions of which either shape has only one part each are stretched to those of the other. -/
theorem commonLengths?_ones (shape shape' : List Nat) :
    commonLengths? (shape ++ List.replicate shape'.length 1)
      (List.replicate shape.length 1 ++ shape') = some (shape ++ shape') := by
  induction shape with
  | nil =>
      show commonLengths? (List.replicate shape'.length 1) shape' = some shape'
      induction shape' with
      | nil => rfl
      | cons n shape' ih =>
          rw [List.length_cons, List.replicate_succ, commonLengths?, ih]
          by_cases hn : n = 1
          · subst hn
            rfl
          · rw [if_neg (by omega), if_pos rfl]
            rfl
  | cons m shape ih =>
      rw [List.length_cons, List.replicate_succ, List.cons_append, List.cons_append,
        commonLengths?, if_pos (.inr rfl), ih]
      rfl

theorem cellCount_ne_zero_of_commonLengths? {ms ns target : List Nat}
    (hlength : ms.length = ns.length) (h : commonLengths? ms ns = some target)
    (hms : cellCount ms ≠ 0) (hns : cellCount ns ≠ 0) : cellCount target ≠ 0 := by
  induction ms generalizing ns target with
  | nil =>
      cases ns <;> cases h <;> exact Nat.one_ne_zero
  | cons m ms ih =>
      cases ns with
      | nil => cases hlength
      | cons n ns =>
          rw [cellCount_cons, mul_ne_zero_iff] at hms hns
          rw [commonLengths?] at h
          split at h
          · obtain ⟨lengths, hlengths, rfl⟩ := Option.map_eq_some_iff.1 h
            exact mul_ne_zero hms.1 (ih (Nat.succ.inj hlength) hlengths hms.2 hns.2)
          split at h
          · obtain ⟨lengths, hlengths, rfl⟩ := Option.map_eq_some_iff.1 h
            exact mul_ne_zero hns.1 (ih (Nat.succ.inj hlength) hlengths hms.2 hns.2)
          · cases h

theorem Stretches.cellCount_dvd {shape target : List Nat} (h : Stretches shape target) :
    cellCount shape ∣ cellCount target := by
  induction h with
  | nil => exact Nat.dvd_refl 1
  | cons hm _ ih =>
      refine mul_dvd_mul ?_ ih
      rcases hm with rfl | rfl
      · exact Nat.dvd_refl _
      · exact Nat.one_dvd _

/-- A shape that has as many cells after it is stretched has not been stretched. -/
theorem Stretches.eq_of_cellCount {shape target : List Nat} (h : Stretches shape target)
    (hcount : cellCount target = cellCount shape) (hne : cellCount target ≠ 0) :
    shape = target := by
  induction h with
  | nil => rfl
  | @cons m n shape target hm hrest ih =>
      rw [cellCount_cons] at hne
      rw [cellCount_cons, cellCount_cons] at hcount
      obtain ⟨hn, htarget⟩ := mul_ne_zero_iff.1 hne
      have hpos := Nat.pos_of_ne_zero htarget
      have hmn : m = n := by
        rcases hm with rfl | rfl
        · rfl
        · have hle := Nat.le_of_dvd hpos hrest.cellCount_dvd
          rw [← hcount.trans (Nat.one_mul _)] at hle
          have hone := Nat.le_of_mul_le_mul_right (hle.trans_eq (Nat.one_mul _).symm) hpos
          exact (Nat.le_antisymm hone (Nat.pos_of_ne_zero hn)).symm
      subst hmn
      rw [ih (Nat.eq_of_mul_eq_mul_left (Nat.pos_of_ne_zero hn) hcount) htarget]

namespace Grid

variable {α β γ δ : Type} {f : α → β → γ} {g : Grid α} {h : Grid β} {k : Grid γ}

/-! ## Stretched entries -/

/-- Blocks of one size, cut out one after another, make up the whole. -/
theorem flatMap_range_take_drop (size m : Nat) (entries : List α)
    (h : entries.length = m * size) :
    ((List.range m).flatMap fun i => (entries.drop (i * size)).take size) = entries := by
  induction m generalizing entries with
  | zero =>
      rw [Nat.zero_mul] at h
      rw [List.eq_nil_of_length_eq_zero h]
      rfl
  | succ m ih =>
      have hrest : (entries.drop size).length = m * size := by
        rw [List.length_drop, h, Nat.succ_mul, Nat.add_sub_cancel]
      have hblocks : ((List.range m).flatMap fun i =>
          (entries.drop ((i + 1) * size)).take size) = entries.drop size := by
        rw [← ih (entries.drop size) hrest]
        simp only [List.drop_drop, Nat.succ_mul, Nat.add_comm size]
      rw [List.range_succ_eq_map, List.flatMap_cons, List.flatMap_map, Nat.zero_mul, List.drop_zero]
      show entries.take size ++ ((List.range m).flatMap fun i =>
        (entries.drop ((i + 1) * size)).take size) = entries
      rw [hblocks, List.take_append_drop]

/-- A dimension that keeps its length is stretched block by block. -/
theorem stretchedEntries_cons (m : Nat) (shape target : List Nat) (entries : List α) :
    stretchedEntries (m :: shape) (m :: target) entries = (List.range m).flatMap fun i =>
      stretchedEntries shape target
        ((entries.drop (i * cellCount shape)).take (cellCount shape)) := by
  rw [stretchedEntries]
  split
  · rename_i hone
    subst hone
    simp
  · rfl

/-- A dimension of length one is repeated. -/
theorem stretchedEntries_one (n : Nat) {shape target : List Nat} {entries : List α}
    (h : entries.length = cellCount shape) :
    stretchedEntries (1 :: shape) (n :: target) entries =
      (List.replicate n (stretchedEntries shape target entries)).flatten := by
  rw [stretchedEntries, if_pos rfl]
  dsimp only
  rw [Nat.zero_mul, List.drop_zero, ← h, List.take_length]

theorem stretchedEntries_self (shape : List Nat) (entries : List α)
    (h : entries.length = cellCount shape) : stretchedEntries shape shape entries = entries := by
  induction shape generalizing entries with
  | nil => rfl
  | cons m shape ih =>
      rw [stretchedEntries_cons]
      refine Eq.trans ?_ (flatMap_range_take_drop (cellCount shape) m entries h)
      exact List.flatMap_congr fun i hi => ih _ (length_block h (List.mem_range.1 hi))

theorem stretched_of_padded {target : List Nat} (h : padded target.length g.shape = target) :
    g.stretched target = g.entries := by
  rw [stretched, h]
  refine stretchedEntries_self target g.entries ?_
  rw [g.filled, ← cellCount_padded target.length, h]

theorem stretched_self (g : Grid α) : g.stretched g.shape = g.entries :=
  stretched_of_padded (padded_self g.shape)

/-- If there are as many cells as before, then nothing has been stretched. -/
theorem stretched_of_cellCount {target : List Nat} (hto : StretchesTo g.shape target)
    (hcount : cellCount target = g.size) : g.stretched target = g.entries := by
  by_cases hzero : cellCount target = 0
  · have hempty : g.entries = [] := List.eq_nil_of_length_eq_zero (hcount.symm.trans hzero)
    rw [hempty]
    exact List.eq_nil_of_length_eq_zero ((length_stretched hto).trans hzero)
  · refine stretched_of_padded (hto.eq_of_cellCount ?_ hzero)
    rw [hcount, size, g.filled, cellCount_padded]

theorem mem_of_mem_stretchedEntries {shape target : List Nat} {entries : List α} {a : α}
    (h : a ∈ stretchedEntries shape target entries) : a ∈ entries := by
  induction shape generalizing target entries with
  | nil => exact h
  | cons m shape ih =>
      cases target with
      | nil => exact h
      | cons n target =>
          rw [stretchedEntries] at h
          have hblock : ∃ i, a ∈ stretchedEntries shape target
              ((entries.drop (i * cellCount shape)).take (cellCount shape)) := by
            dsimp only at h
            split at h
            · obtain ⟨block, hblock, ha⟩ := List.mem_flatten.1 h
              rw [List.eq_of_mem_replicate hblock] at ha
              exact ⟨0, ha⟩
            · obtain ⟨i, -, ha⟩ := List.mem_flatMap.1 h
              exact ⟨i, ha⟩
          obtain ⟨i, ha⟩ := hblock
          exact List.mem_of_mem_drop (List.mem_of_mem_take (ih ha))

theorem mem_of_mem_stretched {target : List Nat} {a : α} (h : a ∈ g.stretched target) :
    a ∈ g.entries := mem_of_mem_stretchedEntries h

/-! ## Results of combining -/

theorem combine_eq_ok (hk : g.combine f h = .ok k) :
    commonShape? g.shape h.shape = some k.shape ∧
      k.entries = List.zipWith f (g.stretched k.shape) (h.stretched k.shape) := by
  unfold combine at hk
  split at hk
  · rename_i shape hshape
    cases hk
    exact ⟨hshape, rfl⟩
  · cases hk

theorem combine_eq_error {fault : Fault} (hfault : g.combine f h = .error fault) :
    fault = .unevenShapes [g.shape, h.shape] := by
  unfold combine at hfault
  split at hfault
  · cases hfault
  · cases hfault
    rfl

theorem exists_combine (f : α → β → γ) {shape : List Nat}
    (hshape : commonShape? g.shape h.shape = some shape) : ∃ k, g.combine f h = .ok k := by
  cases hk : g.combine f h with
  | ok k => exact ⟨k, rfl⟩
  | error fault =>
      unfold combine at hk
      split at hk
      · cases hk
      · rename_i hnone
        cases hshape.symm.trans hnone

/-- Grids of one shape are combined entry by entry. -/
theorem combine_of_shape (f : α → β → γ) (hshape : g.shape = h.shape) :
    ∃ k, g.combine f h = .ok k ∧ k.shape = g.shape ∧
      k.entries = List.zipWith f g.entries h.entries := by
  have hcommon : commonShape? g.shape h.shape = some g.shape := by
    rw [← hshape, commonShape?_self]
  obtain ⟨k, hk⟩ := exists_combine f hcommon
  obtain ⟨hshape', hentries⟩ := combine_eq_ok hk
  have hkg : k.shape = g.shape := Option.some.inj (hshape'.symm.trans hcommon)
  refine ⟨k, hk, hkg, ?_⟩
  rw [hentries, hkg, stretched_self, hshape, stretched_self]

/-- Every result comes from two entries. -/
theorem exists_of_mem_combine (hk : g.combine f h = .ok k) {c : γ} (hc : c ∈ k.entries) :
    ∃ a ∈ g.entries, ∃ b ∈ h.entries, f a b = c := by
  rw [(combine_eq_ok hk).2] at hc
  obtain ⟨i, hi⟩ := List.mem_iff_getElem?.1 hc
  obtain ⟨a, b, ha, hb, rfl⟩ := List.getElem?_zipWith_eq_some.1 hi
  exact ⟨a, mem_of_mem_stretched (List.mem_of_getElem? ha), b,
    mem_of_mem_stretched (List.mem_of_getElem? hb), rfl⟩

/-- If there are entries to combine, then there are results. -/
theorem combine_ne_nil (hk : g.combine f h = .ok k) (hg : g.entries ≠ []) (hh : h.entries ≠ []) :
    k.entries ≠ [] := by
  rw [← List.length_pos_iff, filled, Nat.pos_iff_ne_zero] at hg hh ⊢
  rw [← cellCount_padded (max g.shape.length h.shape.length)] at hg hh
  refine cellCount_ne_zero_of_commonLengths? ?_ (combine_eq_ok hk).1 hg hh
  rw [length_padded (Nat.le_max_left ..), length_padded (Nat.le_max_right ..)]

theorem combineThree_eq_ok {f : α → β → γ → δ} {k : Grid γ} {r : Grid δ}
    (hr : combineThree f g h k = .ok r) :
    StretchesTo g.shape r.shape ∧ StretchesTo h.shape r.shape ∧ StretchesTo k.shape r.shape ∧
      r.entries = List.zipWith (fun (a, b) c => f a b c)
        ((g.stretched r.shape).zip (h.stretched r.shape)) (k.stretched r.shape) := by
  unfold combineThree at hr
  split at hr
  · rename_i shape hshape
    cases hr
    obtain ⟨common, hcommon, hshape⟩ := Option.bind_eq_some_iff.1 hshape
    obtain ⟨hg, hh⟩ := stretchesTo_commonShape? hcommon
    obtain ⟨hall, hk⟩ := stretchesTo_commonShape? hshape
    exact ⟨hg.trans hall, hh.trans hall, hk, rfl⟩
  · cases hr

theorem combineThree_eq_error {f : α → β → γ → δ} {k : Grid γ} {fault : Fault}
    (hfault : combineThree f g h k = .error fault) :
    fault = .unevenShapes [g.shape, h.shape, k.shape] := by
  unfold combineThree at hfault
  split at hfault
  · cases hfault
  · cases hfault
    rfl

/-- Three grids of one shape are combined into one of this shape. -/
theorem combineThree_of_shape (f : α → β → γ → δ) {k : Grid γ} (hh : h.shape = g.shape)
    (hk : k.shape = g.shape) : ∃ r, combineThree f g h k = .ok r ∧ r.shape = g.shape := by
  have hcommon : (commonShape? g.shape h.shape).bind (commonShape? · k.shape) = some g.shape := by
    rw [hh, commonShape?_self, hk]
    exact commonShape?_self g.shape
  cases hr : combineThree f g h k with
  | ok r =>
      refine ⟨r, rfl, ?_⟩
      unfold combineThree at hr
      split at hr
      · rename_i shape hshape
        cases hr
        exact Option.some.inj (hshape.symm.trans hcommon)
      · cases hr
  | error fault =>
      unfold combineThree at hr
      split at hr
      · cases hr
      · rename_i hnone
        cases hcommon.symm.trans hnone

end Grid

/-! ## Entries at the same place -/

/-- In one shape, the last dimensions are of length one, in the other one the first dimensions. -/
def AllMeet (shape shape' : List Nat) : Prop :=
  ∃ first last, padded (max shape.length shape'.length) shape =
      first ++ List.replicate last.length 1 ∧
    padded (max shape.length shape'.length) shape' = List.replicate first.length 1 ++ last

/-- Grids of these shapes are combined such that entries at the same place meet. -/
inductive SamePlacesMeet (shape shape' : List Nat) : Prop
  | unstretched : padded (max shape.length shape'.length) shape =
      padded (max shape.length shape'.length) shape' → SamePlacesMeet shape shape'
  | product : AllMeet shape shape' ∨ AllMeet shape' shape → SamePlacesMeet shape shape'

theorem SamePlacesMeet.symm {shape shape' : List Nat} (h : SamePlacesMeet shape shape') :
    SamePlacesMeet shape' shape := by
  cases h with
  | unstretched h =>
      rw [Nat.max_comm] at h
      exact .unstretched h.symm
  | product h => exact .product h.symm

theorem last_of_commonLengths? {first target : List Nat} {d n : Nat}
    (h : commonLengths? (first ++ [d]) (List.replicate first.length 1 ++ [n]) = some target) :
    d = n ∨ n = 1 ∨ d = 1 := by
  induction first generalizing target with
  | nil =>
      by_contra hne
      simp only [not_or] at hne
      simp [commonLengths?, hne] at h
  | cons m first ih =>
      rw [List.length_cons, List.replicate_succ, List.cons_append, List.cons_append,
        commonLengths?, if_pos (.inr rfl)] at h
      obtain ⟨lengths, hlengths, -⟩ := Option.map_eq_some_iff.1 h
      exact ih hlengths

/-- A vector meets a grid with as many cells at the same places, if they can be combined at all. -/
theorem samePlacesMeet_vector {shape target : List Nat} {n : Nat} (hcount : cellCount shape = n)
    (hn : n ≠ 0) (h : commonShape? shape [n] = some target) : SamePlacesMeet shape [n] := by
  obtain rfl | ⟨first, d, rfl⟩ := shape.eq_nil_or_concat'
  · cases hcount
    exact .unstretched rfl
  have hrank : max (first ++ [d]).length [n].length = (first ++ [d]).length := by simp
  have hvector : padded (first ++ [d]).length [n] = List.replicate first.length 1 ++ [n] := by
    simp [padded]
  have hproduct : cellCount first * d = n := by
    rw [← hcount, cellCount_append]
    exact congrArg _ (Nat.mul_one d).symm
  by_cases hd : d = 1
  · subst hd
    refine .product (.inl ⟨first, [n], ?_, ?_⟩)
    · rw [hrank, padded_self]
      rfl
    · rw [hrank, hvector]
  · rw [commonShape?, hrank, padded_self, hvector] at h
    have hdn : d = n := by
      rcases last_of_commonLengths? h with hdn | hone | hone
      · exact hdn
      · rw [hone] at hproduct
        exact absurd (Nat.eq_one_of_mul_eq_one_left hproduct) hd
      · exact absurd hone hd
    have hfirst : cellCount first = 1 := by
      rw [hdn] at hproduct
      exact Nat.eq_of_mul_eq_mul_right (Nat.pos_of_ne_zero hn) (hproduct.trans (Nat.one_mul n).symm)
    refine .unstretched ?_
    rw [hrank, padded_self, hvector, hdn, ← eq_ones_of_cellCount hfirst]

theorem allMeet_columns (m a k : Nat) :
    AllMeet (m :: List.replicate (a + k + 1) 1) (m :: List.replicate a 1) := by
  have hrank : max (m :: List.replicate (a + k + 1) 1).length (m :: List.replicate a 1).length =
      (m :: List.replicate (a + k + 1) 1).length := by simp [Nat.add_assoc]
  refine ⟨m :: List.replicate k 1, m :: List.replicate a 1, ?_, ?_⟩
  · rw [hrank, padded_self, List.cons_append, List.length_cons, List.length_replicate,
      List.replicate_append_replicate, Nat.add_left_comm, Nat.add_assoc]
  · rw [hrank, padded]
    simp only [List.length_cons, List.length_replicate]
    congr 2
    omega

/-- Columns meet at the same places. -/
theorem samePlacesMeet_columns (m a b : Nat) :
    SamePlacesMeet (m :: List.replicate a 1) (m :: List.replicate b 1) := by
  rcases Nat.lt_trichotomy a b with hlt | rfl | hlt
  · obtain ⟨k, rfl⟩ := Nat.exists_eq_add_of_lt hlt
    exact .product (.inr (allMeet_columns m a k))
  · exact .unstretched rfl
  · obtain ⟨k, rfl⟩ := Nat.exists_eq_add_of_lt hlt
    exact .product (.inl (allMeet_columns m b k))

/-- Single cells meet. -/
theorem samePlacesMeet_single {shape shape' : List Nat} (h : cellCount shape = 1)
    (h' : cellCount shape' = 1) : SamePlacesMeet shape shape' := by
  refine .unstretched ?_
  rw [eq_ones_of_cellCount ((cellCount_padded _ shape).trans h),
    eq_ones_of_cellCount ((cellCount_padded _ shape').trans h'),
    length_padded (Nat.le_max_left ..), length_padded (Nat.le_max_right ..)]

/-- Lists of single cells meet at the same places if they are of one length. -/
theorem samePlacesMeet_of_parts {shape shape' : List Nat} (hcount : shape.headD 1 = shape'.headD 1)
    (h : cellCount shape.tail = 1) (h' : cellCount shape'.tail = 1) :
    SamePlacesMeet shape shape' := by
  cases shape with
  | nil =>
      cases shape' with
      | nil => exact .unstretched rfl
      | cons n shape' =>
          cases hcount
          exact samePlacesMeet_single rfl (by rw [cellCount_cons]; exact (Nat.one_mul _).trans h')
  | cons m shape =>
      cases shape' with
      | nil =>
          cases hcount
          exact samePlacesMeet_single (by rw [cellCount_cons]; exact (Nat.one_mul _).trans h) rfl
      | cons n shape' =>
          cases hcount
          rw [List.tail_cons] at h h'
          rw [eq_ones_of_cellCount h, eq_ones_of_cellCount h']
          exact samePlacesMeet_columns ..

namespace Grid

variable {α β γ : Type} {f : α → β → γ} {g : Grid α} {h : Grid β} {k : Grid γ}

theorem stretchedEntries_repeated (shape shape' : List Nat) {entries : List α}
    (h : entries.length = cellCount shape) :
    stretchedEntries (shape ++ List.replicate shape'.length 1) (shape ++ shape') entries =
      entries.flatMap (List.replicate (cellCount shape')) := by
  induction shape generalizing entries with
  | nil =>
      obtain ⟨a, rfl⟩ := List.length_eq_one_iff.1 h
      rw [List.flatMap_singleton]
      show stretchedEntries (List.replicate shape'.length 1) shape' [a] = _
      induction shape' with
      | nil => rfl
      | cons n shape' ih =>
          have hsingle : [a].length = cellCount (List.replicate shape'.length 1) :=
            (cellCount_ones _).symm
          rw [List.length_cons, List.replicate_succ, stretchedEntries_one n hsingle, ih,
            List.flatten_replicate_replicate, cellCount_cons]
  | cons m shape ih =>
      have hcount : cellCount (shape ++ List.replicate shape'.length 1) = cellCount shape := by
        rw [cellCount_append, cellCount_ones, Nat.mul_one]
      rw [List.cons_append, List.cons_append, stretchedEntries_cons, hcount]
      conv_rhs => rw [← flatMap_range_take_drop (cellCount shape) m entries h, List.flatMap_assoc]
      exact List.flatMap_congr fun i hi => ih (length_block h (List.mem_range.1 hi))

theorem stretchedEntries_cycled (shape shape' : List Nat) {entries : List α}
    (h : entries.length = cellCount shape') :
    stretchedEntries (List.replicate shape.length 1 ++ shape') (shape ++ shape') entries =
      (List.replicate (cellCount shape) entries).flatten := by
  induction shape with
  | nil =>
      refine (stretchedEntries_self shape' entries h).trans ?_
      exact (List.append_nil entries).symm
  | cons m shape ih =>
      have hcount : cellCount (List.replicate shape.length 1 ++ shape') = cellCount shape' := by
        rw [cellCount_append, cellCount_ones, Nat.one_mul]
      rw [List.length_cons, List.replicate_succ, List.cons_append, List.cons_append,
        stretchedEntries_one m (h.trans hcount.symm), ih, cellCount_cons,
        ← List.flatten_replicate_replicate, List.flatten_flatten, List.map_replicate]

/-- Each of some entries meets each of others. -/
theorem mem_zipWith_product {as : List α} {bs : List β} {a : α} {b : β} (f : α → β → γ)
    (ha : a ∈ as) (hb : b ∈ bs) : f a b ∈ List.zipWith f
      (as.flatMap (List.replicate bs.length)) (List.replicate as.length bs).flatten := by
  induction as with
  | nil => cases ha
  | cons a' as ih =>
      rw [List.flatMap_cons, List.length_cons, List.replicate_succ, List.flatten_cons,
        List.zipWith_append (List.length_replicate ..)]
      rcases List.mem_cons.1 ha with rfl | ha
      · refine List.mem_append_left _ ?_
        obtain ⟨i, hi, rfl⟩ := List.getElem_of_mem hb
        exact List.mem_of_getElem? (i := i) (by simp [hi])
      · exact List.mem_append_right _ (ih ha)

theorem stretched_of_allMeet (hmeet : AllMeet g.shape h.shape) :
    ∃ target, commonShape? g.shape h.shape = some target ∧
      g.stretched target = g.entries.flatMap (List.replicate h.entries.length) ∧
      h.stretched target = (List.replicate g.entries.length h.entries).flatten := by
  obtain ⟨first, last, hg, hh⟩ := hmeet
  have hrank : max g.shape.length h.shape.length = (first ++ last).length := by
    rw [← length_padded (Nat.le_max_left g.shape.length h.shape.length), hg, List.length_append,
      List.length_append, List.length_replicate]
  have hfirst : g.entries.length = cellCount first := by
    rw [g.filled, ← cellCount_padded, hg, cellCount_append, cellCount_ones, Nat.mul_one]
  have hlast : h.entries.length = cellCount last := by
    rw [h.filled, ← cellCount_padded, hh, cellCount_append, cellCount_ones, Nat.one_mul]
  refine ⟨first ++ last, ?_, ?_, ?_⟩
  · rw [commonShape?, hg, hh, commonLengths?_ones]
  · rw [stretched, ← hrank, hg, stretchedEntries_repeated first last hfirst, hlast]
  · rw [stretched, ← hrank, hh, stretchedEntries_cycled first last hlast, hfirst]

/-- Entries at the same place meet. -/
theorem mem_combine_of_samePlacesMeet (hmeet : SamePlacesMeet g.shape h.shape)
    (hk : g.combine f h = .ok k) {i : Nat} {a : α} {b : β} (ha : g.entries[i]? = some a)
    (hb : h.entries[i]? = some b) : f a b ∈ k.entries := by
  obtain ⟨hshape, hentries⟩ := combine_eq_ok hk
  rw [hentries]
  rcases hmeet with hsame | hmeet | hmeet
  · rw [commonShape?, hsame, commonLengths?_self] at hshape
    have hrank := (length_padded (Nat.le_max_right g.shape.length h.shape.length)).symm.trans
      (congrArg List.length (Option.some.inj hshape))
    rw [stretched_of_padded (by rw [← hrank, hsame]; exact Option.some.inj hshape),
      stretched_of_padded (by rw [← hrank]; exact Option.some.inj hshape)]
    exact List.mem_of_getElem? (List.getElem?_zipWith_eq_some.2 ⟨a, b, ha, hb, rfl⟩)
  · obtain ⟨target, htarget, hg, hh⟩ := stretched_of_allMeet hmeet
    cases hshape.symm.trans htarget
    rw [hg, hh]
    exact mem_zipWith_product f (List.mem_of_getElem? ha) (List.mem_of_getElem? hb)
  · obtain ⟨target, htarget, hh, hg⟩ := stretched_of_allMeet hmeet
    cases (hshape.symm.trans (commonShape?_comm _ _)).trans htarget
    rw [hg, hh, List.zipWith_comm]
    exact mem_zipWith_product (fun b a => f a b) (List.mem_of_getElem? hb) (List.mem_of_getElem? ha)

end Grid

end Extremum
