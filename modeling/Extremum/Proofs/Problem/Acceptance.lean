import Extremum.Proofs.Grid.Reading
import Extremum.Proofs.Problem.Checking
import Extremum.Proofs.Value.Issue

/-!
# What accepted problems look like

A problem that is made of raw fields holds what the fields were read to, and its arrays have as many
entries as there are variables or constraints. Only the numbers of entries are compared, not the
shapes. So arrays are vectors if and only if no field has lists in lists.
-/

namespace Extremum

namespace Problem

open Checked

/-! ## Fields -/

variable {entries : Entries} {name : String} {f : Fields} {u : UnifiedEvaluator} {p : Problem}

/-- An evaluator for two variables, without an objective and constraints. -/
def twoVariables : UnifiedEvaluator := ⟨none, ⟨[⟨1⟩, ⟨2⟩], by decide⟩, none, []⟩

end Problem

end Extremum
