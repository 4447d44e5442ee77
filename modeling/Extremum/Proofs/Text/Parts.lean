import Extremum.Proofs.Text.Lowercase

/-!
# Lower case, twice and in parts

What is in lower case stays as it is when it is put in lower case again. A slash has no case and is
not passed over when the surroundings of a character are examined. So the parts of a text between
slashes are put in lower case each by itself, and nothing but a slash becomes one.
-/

namespace Extremum.Text

variable {c d : Char} {before cs ds : List Char} {s t : String}

/-! ## Runs of the table -/

namespace CaseRun

variable {r r' : CaseRun} {n : Nat}

/-- The character with a number is one of the run. -/
def Has (r : CaseRun) (n : Nat) : Prop :=
  r.first ≤ n ∧ n ≤ r.last ∧ (n - r.first) % r.step = 0

instance (r : CaseRun) (n : Nat) : Decidable (r.Has n) :=
  inferInstanceAs (Decidable (_ ∧ _ ∧ _))

def lowered (r : CaseRun) (n : Nat) : Nat := (n + r.offset).toNat

/-- The characters of a run are not between two numbers, or not of the parity of the first one. -/
def misses (r : CaseRun) (first last : Nat) (alternating : Bool) : Bool :=
  Nat.blt last r.first || Nat.blt r.last first ||
    alternating && Nat.beq r.step 2 && Nat.beq ((first + r.first) % 2) 1

/-- No character of a run is the lower-case form of one of another run. -/
def isClearOf (r' r : CaseRun) : Bool :=
  r'.misses (r.lowered r.first) (r.lowered r.last) (Nat.beq r.step 2 || Nat.beq r.first r.last)

theorem not_has_lowered (h : r'.isClearOf r = true) (hpositive : 0 < r.lowered r.first)
    (hn : r.Has n) : ¬ r'.Has (r.lowered n) := by
  rintro ⟨hfirst', hlast', hstep'⟩
  obtain ⟨hfirst, hlast, hstep⟩ := hn
  simp only [isClearOf, misses, lowered, Bool.or_eq_true, Bool.and_eq_true, Nat.blt_eq,
    Nat.beq_eq] at h hfirst' hlast' hstep' hpositive
  rcases h with (h | h) | ⟨⟨htwo | hone, htwo'⟩, hodd⟩
  · omega
  · omega
  · rw [htwo] at hstep
    rw [htwo'] at hstep'
    omega
  · rw [htwo'] at hstep'
    omega

end CaseRun

/-- A character alone, as a run. -/
def runOf (c : Char) : CaseRun := ⟨c.toNat, c.toNat, 1, 0⟩

/-- The capital I with a dot above, whose lower-case form is not in the table. -/
def dottedI : Char := Char.ofNat 0x130

theorem caseRuns_clear : (caseRuns.all fun r => Nat.blt 0 (r.lowered r.first) &&
    (runOf '/' :: runOf dottedI :: caseRuns).all (·.isClearOf r)) = true := by
  decide +kernel

theorem not_has_of_mem_caseRuns {r r' : CaseRun} {n : Nat} (hr : r ∈ caseRuns) (hn : r.Has n)
    (hr' : r' ∈ runOf '/' :: runOf dottedI :: caseRuns) : ¬ r'.Has (r.lowered n) := by
  have hclear := List.all_eq_true.1 caseRuns_clear r hr
  rw [Bool.and_eq_true, Nat.blt_eq, List.all_eq_true] at hclear
  exact CaseRun.not_has_lowered (hclear.2 r' hr') hclear.1 hn

theorem has_runOf : (runOf c).Has c.toNat := by simp [runOf, CaseRun.Has]

/-! ## Small characters -/

/-- A character that is its own lower-case form, as no run of the table has it. -/
def IsSmall (c : Char) : Prop := c ≠ dottedI ∧ ∀ r ∈ caseRuns, ¬ r.Has c.toNat

instance (c : Char) : Decidable (IsSmall c) :=
  decidable_of_iff (c ≠ dottedI ∧ (caseRuns.all fun r => ¬ r.Has c.toNat) = true)
    (by simp [IsSmall])

theorem isSmall_of_ascii (h : c.toNat < 128) (hc : ¬ c.isUpper = true) : IsSmall c := by
  have hupper : ¬ (65 ≤ c.toNat ∧ c.toNat ≤ 90) := by
    simpa [Char.isUpper, UInt32.le_iff_toNat_le] using hc
  have hruns : ∀ r ∈ caseRuns, r.first = 65 ∧ r.last = 90 ∨ 128 ≤ r.first := by decide +kernel
  refine ⟨?_, fun r hr hhas => ?_⟩
  · rintro rfl
    exact absurd h (by decide)
  · obtain ⟨hfirst, hlast, -⟩ := hhas
    rcases hruns r hr with ⟨h65, h90⟩ | h128 <;> omega

theorem not_isUpper_of_isSmall (h : IsSmall c) : ¬ c.isUpper = true := by
  intro hc
  have hcode : 65 ≤ c.toNat ∧ c.toNat ≤ 90 := by
    simpa [Char.isUpper, UInt32.le_iff_toNat_le] using hc
  exact h.2 ⟨0x41, 0x5a, 1, 32⟩ List.mem_cons_self ⟨hcode.1, hcode.2, Nat.mod_one _⟩

theorem toNat_ne_of_isSmall (h : IsSmall c) : c.toNat ≠ 0x130 ∧ c.toNat ≠ 0x3A3 := by
  refine ⟨fun hc => h.1 (Char.toNat_inj.1 hc), fun hc => ?_⟩
  obtain ⟨r, hr, hhas⟩ : ∃ r ∈ caseRuns, r.Has 0x3A3 := by decide +kernel
  exact h.2 r hr (hc ▸ hhas)

/-- Beyond ASCII, a character other than the dotted I is in a run of the table or stays. -/
theorem lowerChar_of_not_ascii (hascii : ¬ c.toNat < 128) (hc : c.toNat ≠ 0x130) :
    (∃ r ∈ caseRuns, r.Has c.toNat ∧ lowerChar c = [Char.ofNat (r.lowered c.toNat)]) ∨
      ((∀ r ∈ caseRuns, ¬ r.Has c.toNat) ∧ lowerChar c = [c]) := by
  have hhas : ∀ r : CaseRun, (r.first ≤ c.toNat && c.toNat ≤ r.last &&
      (c.toNat - r.first) % r.step == 0) = decide (r.Has c.toNat) := by
    intro r
    rw [Bool.eq_iff_iff, decide_eq_true_eq]
    simp [CaseRun.Has, and_assoc]
  unfold lowerChar
  rw [if_neg hascii, if_neg hc]
  simp only [hhas]
  cases hfind : caseRuns.find? fun r => decide (r.Has c.toNat) with
  | some r =>
      have hhas := List.find?_some hfind
      exact .inl ⟨r, List.mem_of_find?_eq_some hfind, of_decide_eq_true hhas, rfl⟩
  | none => exact .inr ⟨by simpa using hfind, rfl⟩

theorem lowerChar_of_isSmall (h : IsSmall c) : lowerChar c = [c] := by
  by_cases hascii : c.toNat < 128
  · rw [lowerChar, if_pos hascii, Char.toLower_eq_of_not_isUpper (not_isUpper_of_isSmall h)]
  · rcases lowerChar_of_not_ascii hascii (toNat_ne_of_isSmall h).1 with
      ⟨r, hr, hhas, -⟩ | ⟨-, hsame⟩
    · exact absurd hhas (h.2 r hr)
    · exact hsame

theorem toNat_toLower_lt (h : c.toNat < 128) : c.toLower.toNat < 128 := by
  by_cases hc : c.isUpper = true
  · obtain ⟨i, hi, rfl⟩ := exists_capital hc
    revert i
    decide
  · rwa [Char.toLower_eq_of_not_isUpper hc]

/-- The lower-case form of a character is small, and it holds a slash only if it is that of one. -/
theorem of_mem_lowerChar (hd : d ∈ lowerChar c) : IsSmall d ∧ (d = '/' → c = '/') := by
  by_cases hascii : c.toNat < 128
  · rw [lowerChar, if_pos hascii, List.mem_singleton] at hd
    subst hd
    refine ⟨isSmall_of_ascii (toNat_toLower_lt hascii) (by simp), fun hslash => ?_⟩
    · have hne := toLower_ne_slash c
      simpa [hslash] using hne
  by_cases hdotted : c.toNat = 0x130
  · rw [lowerChar, if_neg hascii, if_pos hdotted] at hd
    rcases List.mem_pair.1 hd with rfl | rfl
    · exact ⟨by decide +kernel, fun hslash => absurd hslash (by decide +kernel)⟩
    · exact ⟨by decide +kernel, fun hslash => absurd hslash (by decide +kernel)⟩
  rcases lowerChar_of_not_ascii hascii hdotted with ⟨r, hr, hhas, hlower⟩ | ⟨hruns, hlower⟩
  · rw [hlower, List.mem_singleton] at hd
    have hmiss : ∀ r' ∈ runOf '/' :: runOf dottedI :: caseRuns, ¬ r'.Has (r.lowered c.toNat) :=
      fun _ => not_has_of_mem_caseRuns hr hhas
    have hcode := congrArg Char.toNat hd
    rw [Char.toNat_ofNat] at hcode
    split at hcode
    · rw [← hcode] at hmiss
      refine ⟨⟨?_, fun r' hr' => hmiss r' (by simp [hr'])⟩, ?_⟩
      · rintro rfl
        exact hmiss (runOf dottedI) (by simp) has_runOf
      · rintro rfl
        exact absurd has_runOf (hmiss (runOf '/') (by simp))
    · -- there is no character with this number
      obtain rfl : d = Char.ofNat 0 := Char.toNat_inj.1 hcode
      exact ⟨by decide +kernel, fun hslash => absurd hslash (by decide)⟩
  · rw [hlower, List.mem_singleton] at hd
    subst hd
    exact ⟨⟨fun hc => hdotted (hc ▸ rfl), hruns⟩, id⟩

/-! ## Texts -/

theorem isSmall_of_mem_lowerAfter (hd : d ∈ lowerAfter before cs) : IsSmall d := by
  induction cs generalizing before with
  | nil => cases hd
  | cons c cs ih =>
      rw [lowerAfter, List.mem_append] at hd
      rcases hd with hd | hd
      · split at hd
        · obtain rfl := List.mem_singleton.1 hd
          split <;> decide +kernel
        · exact (of_mem_lowerChar hd).1
      · exact ih hd

theorem lowerAfter_of_isSmall (h : ∀ c ∈ cs, IsSmall c) : lowerAfter before cs = cs := by
  induction cs generalizing before with
  | nil => rfl
  | cons c cs ih =>
      obtain ⟨hc, hcs⟩ := List.forall_mem_cons.1 h
      rw [lowerAfter, if_neg (toNat_ne_of_isSmall hc).2, lowerChar_of_isSmall hc, ih hcs]
      rfl

theorem lowercase_lowercase (s : String) : lowercase (lowercase s) = lowercase s := by
  have hsmall : ∀ c ∈ (lowercase s).toList, IsSmall c := by
    intro c hc
    rw [lowercase, String.toList_ofList] at hc
    exact isSmall_of_mem_lowerAfter hc
  rw [lowercase, lowerAfter_of_isSmall hsmall, String.ofList_toList]

theorem slash_mem_of_mem_lowerAfter (h : '/' ∈ lowerAfter before cs) : '/' ∈ cs := by
  induction cs generalizing before with
  | nil => exact h
  | cons c cs ih =>
      rw [lowerAfter, List.mem_append] at h
      rcases h with h | h
      · split at h
        · have hne : ∀ n ∈ [0x3C2, 0x3C3], '/' ≠ Char.ofNat n := by decide
          refine absurd (List.mem_singleton.1 h) ?_
          split
          · exact hne _ (by simp)
          · exact hne _ (by simp)
        · exact (of_mem_lowerChar h).2 rfl ▸ List.mem_cons_self
      · exact List.mem_cons_of_mem _ (ih h)

/-! ## Parts between slashes -/

/-- What is beyond a slash does not matter to what is before it. -/
theorem meetsCased_append_slash (cs ds : List Char) :
    meetsCased (cs ++ '/' :: ds) = meetsCased cs := by
  have hslash : isCaseIgnorable '/' = false ∧ isCased '/' = false := by decide +kernel
  unfold meetsCased
  rw [List.dropWhile_append]
  cases hrest : cs.dropWhile isCaseIgnorable with
  | nil => simp [hslash]
  | cons c rest => simp

theorem lowerAfter_beyond_slash (before ds cs : List Char) :
    lowerAfter (before ++ '/' :: ds) cs = lowerAfter before cs := by
  induction cs generalizing before with
  | nil => rfl
  | cons c cs ih =>
      have hrest := ih (c :: before)
      rw [List.cons_append] at hrest
      simp only [lowerAfter, meetsCased_append_slash, hrest]

theorem lowerAfter_append_slash (before cs ds : List Char) :
    lowerAfter before (cs ++ '/' :: ds) = lowerAfter before cs ++ '/' :: lowerAfter [] ds := by
  induction cs generalizing before with
  | nil =>
      have hslash : lowerChar '/' = ['/'] := by decide +kernel
      have hds := lowerAfter_beyond_slash [] before ds
      rw [List.nil_append] at hds
      simp [lowerAfter, hslash, hds]
  | cons c cs ih => simp only [List.cons_append, lowerAfter, meetsCased_append_slash, ih,
      List.append_assoc]

theorem lowercase_append_slash (s t : String) :
    lowercase (s ++ "/" ++ t) = lowercase s ++ "/" ++ lowercase t := by
  apply String.toList_injective
  simp [lowercase, lowerAfter_append_slash]

theorem slash_mem_lowercase : '/' ∈ (lowercase s).toList ↔ '/' ∈ s.toList := by
  rw [lowercase, String.toList_ofList]
  refine ⟨slash_mem_of_mem_lowerAfter, fun h => ?_⟩
  obtain ⟨cs, ds, hs⟩ := List.append_of_mem h
  rw [hs, lowerAfter_append_slash]
  simp

end Extremum.Text
