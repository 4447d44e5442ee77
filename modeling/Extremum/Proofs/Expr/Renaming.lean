import Extremum.Expr.OfFunction
import Extremum.Expr.Resolution
import Extremum.Proofs.Success

/-!
# Renaming variables in functions and expressions

Functions and expressions refer to variables by their identifiers. If other identifiers are put in
their place, and the positions follow, then the expressions in terms of positions stay the same.
-/

namespace Extremum

variable {α : Type}

/-- Identifiers have the same positions as what they are renamed to, or both have none. -/
def SamePlaces (f : VariableId → VariableId) (place place' : VariableId → Except Fault Nat) :
    Prop :=
  ∀ v, SameSuccess (place' (f v)) (place v)

/-! ## Functions -/

namespace ScalarFunction

/-- The function with other identifiers in the place of its variables. -/
def rename (f : VariableId → VariableId) : ScalarFunction α → ScalarFunction α
  | single v => single (f v)
  | affine terms c => affine (terms.map fun t => ⟨t.coefficient, f t.var⟩) c
  | quadratic terms products c =>
    quadratic (terms.map fun t => ⟨t.coefficient, f t.var⟩)
      (products.map fun t => ⟨t.coefficient, f t.first, f t.second⟩) c

end ScalarFunction

namespace Expr

variable {f : VariableId → VariableId} {place place' : VariableId → Except Fault Nat}

theorem ofAffineTerms_rename (h : SamePlaces f place place') (terms : List (AffineTerm α)) :
    SameSuccess ((terms.map fun t => ⟨t.coefficient, f t.var⟩).mapM (ofAffineTerm place'))
      (terms.mapM (ofAffineTerm place)) := by
  refine .mapM (R := fun t' t => t' = ⟨t.coefficient, f t.var⟩) ?_ ?_
  · exact List.forall₂_map_left_iff.2 (List.forall₂_same.2 fun t _ => rfl)
  · rintro _ t rfl
    exact (h t.var).bind fun p => .refl _

theorem ofQuadraticTerms_rename [Mul α] [OfScientific α] (h : SamePlaces f place place')
    (products : List (QuadraticTerm α)) :
    SameSuccess
      ((products.map fun t => ⟨t.coefficient, f t.first, f t.second⟩).mapM
        (ofQuadraticTerm place')) (products.mapM (ofQuadraticTerm place)) := by
  refine .mapM (R := fun t' t => t' = ⟨t.coefficient, f t.first, f t.second⟩) ?_ ?_
  · exact List.forall₂_map_left_iff.2 (List.forall₂_same.2 fun t _ => rfl)
  · rintro _ t rfl
    exact (h t.first).bind fun p => (h t.second).bind fun q => .refl _

/-- A renamed function has the same expression. -/
theorem ofFunction_rename [Mul α] [OfScientific α] (h : SamePlaces f place place')
    (g : ScalarFunction α) : SameSuccess (ofFunction place' (g.rename f)) (ofFunction place g) := by
  cases g with
  | single v => exact (h v).bind fun p => .refl _
  | affine terms c => exact (ofAffineTerms_rename h terms).bind fun es => .refl _
  | quadratic terms products c =>
      exact (ofQuadraticTerms_rename h products).bind fun qs =>
        (ofAffineTerms_rename h terms).bind fun es => .refl _

/-! ## Expressions -/

mutual

/-- The expression with other identifiers in the place of the variables it refers to. -/
def rename (f : VariableId → VariableId) : Expr α → Expr α
  | constant c => constant c
  | position p => position p
  | reference v => reference (f v)
  | sum terms => sum (renameAll f terms)
  | product factors => product (renameAll f factors)
  | unary g a => unary g (rename f a)
  | binary g a b => binary g (rename f a) (rename f b)
  | comparison r a b => comparison r (rename f a) (rename f b)
  | interval l e u => interval l (rename f e) u
  | foreign object => foreign object

def renameAll (f : VariableId → VariableId) : List (Expr α) → List (Expr α)
  | [] => []
  | e :: rest => rename f e :: renameAll f rest

end

mutual

/-- A renamed expression is resolved to the same one. -/
theorem resolve_rename (h : SamePlaces f place place') :
    (e : Expr α) → SameSuccess ((e.rename f).resolve place') (e.resolve place)
  | constant _ | position _ | foreign _ => .refl _
  | reference v => (h v).bind fun _ => .refl _
  | sum terms => (resolveAll_rename h terms).bind fun _ => .refl _
  | product factors => (resolveAll_rename h factors).bind fun _ => .refl _
  | unary _ a => (resolve_rename h a).bind fun _ => .refl _
  | binary _ a b =>
    (resolve_rename h a).bind fun _ => (resolve_rename h b).bind fun _ => .refl _
  | comparison _ a b =>
    (resolve_rename h a).bind fun _ => (resolve_rename h b).bind fun _ => .refl _
  | interval _ e _ => (resolve_rename h e).bind fun _ => .refl _

theorem resolveAll_rename (h : SamePlaces f place place') :
    (es : List (Expr α)) → SameSuccess (resolveAll place' (renameAll f es)) (resolveAll place es)
  | [] => .refl _
  | e :: rest =>
    (resolve_rename h e).bind fun _ => (resolveAll_rename h rest).bind fun _ => .refl _

end

end Expr

end Extremum
