import Extremum.Numeric.Cache
import Extremum.Numeric.Outcome
import Extremum.Numeric.Request

/-!
# Dialogues with minimizers

A minimizer is a strategy: given a request, it asks for values at points of its choice, one after
another and depending on the replies, until it returns an outcome or fails. All that it can do is
ask.
-/

namespace Extremum.Numeric

/-- What a minimizer may ask for at a point. -/
inductive Question where
  | objective (x : List Float)
  /-- One of the normalized constraints. -/
  | row (index : Nat) (x : List Float)
  /-- All constraints. -/
  | values (x : List Float)

/-- A reply: a list of one value, or of the values of all constraints. -/
abbrev Reply := Except Fault (List Float)

/-- The course of a minimizer. -/
inductive Dialogue (α : Type) where
  | finish (result : α)
  | fail (fault : Fault)
  | ask (question : Question) (next : Reply → Dialogue α)

/-- A minimizer starts a dialogue for every request. -/
abbrev Minimizer := Request → Dialogue Outcome

/-- The functions of a problem, from whose values replies are made. -/
structure Functions where
  objective : Compiled
  constraints : List Compiled
  /-- The factor of the objective in replies. -/
  sign : Float
  rows : List NormalRow

namespace Functions

def reply (f : Functions) (q : Question) (c : ConstraintCache) : Reply × ConstraintCache :=
  match q with
  | .objective x => ((f.objective x).map fun y => [f.sign * y], c)
  | .values x => c.valuesAt f.constraints x
  | .row i x =>
    match c.valuesAt f.constraints x, f.rows[i]? with
    | (.ok values, c), some row => ((row.valueAt values).map ([·]), c)
    | (.ok _, c), none => (.error (.outOfBounds i f.rows.length), c)
    | (.error fault, c), _ => (.error fault, c)

end Functions

/-- The questions of a dialogue with their replies. -/
abbrev Transcript := List (Question × Reply)

/-- How a dialogue ended, what is kept afterwards, and its transcript. -/
structure Conclusion (α : Type) where
  result : Except Fault α
  cache : ConstraintCache
  transcript : Transcript

def Dialogue.run {α : Type} (f : Functions) (c : ConstraintCache) : Dialogue α → Conclusion α
  | finish a => ⟨.ok a, c, []⟩
  | fail fault => ⟨.error fault, c, []⟩
  | ask q next =>
    let r := f.reply q c
    let rest := (next r.1).run f r.2
    { rest with transcript := (q, r.1) :: rest.transcript }

end Extremum.Numeric
