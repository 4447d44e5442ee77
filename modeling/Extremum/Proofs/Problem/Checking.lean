import Extremum.Problem.Checking
import Extremum.Proofs.Success

/-!
# The check of sizes

The check that every problem goes through compares the sizes of arrays with the counts, looks up the
codes of categories and counts the constraints of the evaluator. It accepts the fields of problems,
and no others, and leaves them as they are.
-/

namespace Extremum

attribute [ext] Grid

namespace Problem

/-- The fields that describe a problem. -/
def fields (p : Problem) : Fields where
  variableCount := p.variableCount
  constraintCount := p.constraintCount
  variableLower := p.variableLower
  variableUpper := p.variableUpper
  constraintLower := p.constraintLower
  constraintUpper := p.constraintUpper
  direction := p.direction
  categories := ⟨p.categories.shape, p.categories.entries.map Category.code,
    by rw [List.length_map]; exact p.categories.filled⟩
  warmStart := p.warmStart

theorem requireSize_eq_ok {α : Type} (name : String) {g : Grid α} {n : Nat} (h : g.size = n) :
    requireSize name g n = .ok ⟨h⟩ := dif_pos h

theorem requireCount_eq_ok {u : UnifiedEvaluator} {n : Nat} (h : u.constraintCount = n) :
    requireCount u n = .ok ⟨h⟩ := dif_pos h

theorem filterMap_categoryOfCode (categories : List Category) :
    (categories.map Category.code).filterMap categoryOfCode? = categories := by
  induction categories with
  | nil => rfl
  | cons c cs ih =>
      have hc : categoryOfCode? c.code = some c := by cases c <;> rfl
      rw [List.map_cons, List.filterMap_cons_some hc, ih]

theorem categoryGrid_codes (p : Problem) :
    categoryGrid? p.fields.categories = some p.categories := by
  unfold categoryGrid? fields
  simp only [filterMap_categoryOfCode]
  exact dif_pos p.categories.filled

/-- The check accepts the fields of every problem, and gives the problem back. -/
theorem ofFields_fields (p : Problem) : ofFields p.fields p.evaluator = .ok p := by
  have hcodes : p.fields.categories.size = p.variableCount := by
    simp only [fields, Grid.size, List.length_map]
    exact p.categories_size
  refine bind_eq_ok.2 ⟨_, requireSize_eq_ok _ p.variableLower_size, ?_⟩
  refine bind_eq_ok.2 ⟨_, requireSize_eq_ok _ p.variableUpper_size, ?_⟩
  refine bind_eq_ok.2 ⟨_, requireSize_eq_ok _ hcodes, ?_⟩
  refine bind_eq_ok.2 ⟨_, requireSize_eq_ok _ p.warmStart_size, ?_⟩
  refine bind_eq_ok.2 ⟨_, requireSize_eq_ok _ p.constraintLower_size, ?_⟩
  refine bind_eq_ok.2 ⟨_, requireSize_eq_ok _ p.constraintUpper_size, ?_⟩
  rw [categoryGrid_codes]
  refine bind_eq_ok.2 ⟨_, requireSize_eq_ok _ p.categories_size, ?_⟩
  exact bind_eq_ok.2 ⟨_, requireCount_eq_ok p.evaluator_count, rfl⟩

variable {f : Fields} {u : UnifiedEvaluator} {p : Problem}

theorem code_of_categoryOfCode? {code : Nat} {c : Category} (h : categoryOfCode? code = some c) :
    c.code = code := by
  simpa using List.find?_some h

theorem map_code_of_length {codes : List Nat}
    (h : (codes.filterMap categoryOfCode?).length = codes.length) :
    (codes.filterMap categoryOfCode?).map Category.code = codes := by
  induction codes with
  | nil => rfl
  | cons code codes ih =>
      have hle := List.length_filterMap_le categoryOfCode? codes
      cases hc : categoryOfCode? code with
      | none =>
          -- a code that is dropped is missing from the length
          rw [List.filterMap_cons_none hc, List.length_cons] at h
          omega
      | some c =>
          rw [List.filterMap_cons_some hc] at h ⊢
          rw [List.map_cons, code_of_categoryOfCode? hc, ih (by simpa using h)]

theorem codes_of_categoryGrid? {g : Grid Nat} {categories : Grid Category}
    (h : categoryGrid? g = some categories) :
    g.shape = categories.shape ∧ g.entries = categories.entries.map Category.code := by
  unfold categoryGrid? at h
  dsimp only at h
  split at h
  · rename_i hlength
    cases h
    exact ⟨rfl, (map_code_of_length (hlength.trans g.filled.symm)).symm⟩
  · cases h

/-- The check of the sizes accepts the fields of problems, and no others. -/
theorem ofFields_eq_ok : ofFields f u = .ok p ↔ f = p.fields ∧ u = p.evaluator := by
  constructor
  · intro h
    -- the categories are looked at after the sizes of arrays, and the constraints are counted last
    obtain ⟨⟨h₁⟩, -, h⟩ := bind_eq_ok.1 h
    obtain ⟨⟨h₂⟩, -, h⟩ := bind_eq_ok.1 h
    obtain ⟨⟨h₃⟩, -, h⟩ := bind_eq_ok.1 h
    obtain ⟨⟨h₄⟩, -, h⟩ := bind_eq_ok.1 h
    obtain ⟨⟨h₅⟩, -, h⟩ := bind_eq_ok.1 h
    obtain ⟨⟨h₆⟩, -, h⟩ := bind_eq_ok.1 h
    cases hcategories : categoryGrid? f.categories with
    | none =>
        simp only [hcategories] at h
        cases h
    | some categories =>
        simp only [hcategories] at h
        obtain ⟨⟨h₇⟩, -, h⟩ := bind_eq_ok.1 h
        obtain ⟨⟨h₈⟩, -, h⟩ := bind_eq_ok.1 h
        obtain rfl := pure_eq_ok.1 h
        have hcodes : f.categories = ⟨categories.shape, categories.entries.map Category.code,
            by rw [List.length_map]; exact categories.filled⟩ :=
          Grid.ext_iff.2 (codes_of_categoryGrid? hcategories)
        exact ⟨congrArg (fun g => { f with categories := g }) hcodes, rfl⟩
  · rintro ⟨rfl, rfl⟩
    exact ofFields_fields p

/-- Every array of a problem is a vector, of `n` entries for variables and `k` for constraints. -/
structure HasLengths (p : Problem) (n k : Nat) : Prop where
  variableCount : p.variableCount = n
  constraintCount : p.constraintCount = k
  variableLower : p.variableLower.shape = [n]
  variableUpper : p.variableUpper.shape = [n]
  constraintLower : p.constraintLower.shape = [k]
  constraintUpper : p.constraintUpper.shape = [k]
  categories : p.categories.shape = [n]
  warmStart : p.warmStart.shape = [n]

end Problem

end Extremum
