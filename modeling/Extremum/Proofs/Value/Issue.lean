import Extremum.Proofs.Success
import Extremum.Value.Issue

/-!
# Results with the issues of all parts

Results are combined with the issues of all of them. A combination succeeds exactly if all of its
parts do.
-/

namespace Extremum

namespace Checked

variable {α β γ : Type} {c : γ}

theorem both_eq_ok {f : α → β → γ} {x : Checked α} {y : Checked β} :
    both f x y = .ok c ↔ ∃ a b, x = .ok a ∧ y = .ok b ∧ f a b = c := by
  cases x <;> cases y <;> simp [both]

theorem within_eq_ok {step : Place} {x : Checked α} {a : α} :
    x.within step = .ok a ↔ x = .ok a := by
  cases x <;> simp [within]

theorem ofDefect_eq_ok {x : Except Defect α} {a : α} : ofDefect x = .ok a ↔ x = .ok a := by
  cases x <;> simp [ofDefect]

theorem all_cons_eq_ok {x : Checked α} {xs : List (Checked α)} {as : List α} :
    all (x :: xs) = .ok as ↔ ∃ a as', x = .ok a ∧ all xs = .ok as' ∧ a :: as' = as := both_eq_ok

end Checked

end Extremum
