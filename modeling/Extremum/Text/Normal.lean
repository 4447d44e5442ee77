import Extremum.Text.Composition
import Extremum.Text.Mark

/-!
# Composed text

Texts that stand for the same are brought to one form: every character is replaced by what it stands
for, runs of marks are put in the order of their classes, and then a character and the marks on it
are composed as far as possible.
-/

namespace Extremum.Text

/-! ## Taking apart -/

/-- The greatest number of steps from a character to what it stands for in the end. -/
def decompositionDepth : Nat := 4

/-- What a character stands for after some number of steps. -/
def simpleParts (fuel code : Nat) : List Nat :=
  match fuel with
  | 0 => [code]
  | fuel + 1 =>
    match partsOf? code with
    | some parts => parts.flatMap (simpleParts fuel)
    | none => [code]

/-- What a character stands for in the end. -/
def decomposed (c : Char) : List Char :=
  (simpleParts decompositionDepth c.toNat).map Char.ofNat

/-! ## Order of marks -/

/-- A character with its class. -/
structure Classified where
  code : Nat
  cls : Nat

/--
Puts a character after text that is given from its end on; a mark goes before those of greater
classes.
-/
def insertMark (m : Classified) : List Classified → List Classified
  | p :: rest =>
    if 0 < m.cls ∧ m.cls < p.cls then p :: insertMark m rest else m :: p :: rest
  | [] => [m]

/-- The characters of a text with their classes, all runs of marks in the order of the classes. -/
def ordered (cs : List Char) : List Classified :=
  (cs.foldl (fun done c => insertMark ⟨c.toNat, markClass c⟩ done) []).reverse

/-! ## Putting together -/

/--
Text on its way to being composed: what is done, and a character with the marks on it. Both lists
start with what comes last.
-/
structure Assembly where
  done : List Nat
  base : Option Nat
  marks : List Classified

namespace Assembly

/-- Everything taken so far, the last character first. -/
def taken (a : Assembly) : List Nat :=
  a.marks.map (·.code) ++ a.base.toList ++ a.done

/-- A character of this class is not kept from the base by the marks between them. -/
def reachesBase (a : Assembly) (cls : Nat) : Bool :=
  match a.marks with
  | [] => true
  | m :: _ => m.cls < cls

def add (a : Assembly) (m : Classified) : Assembly :=
  let composed := if a.reachesBase m.cls then a.base.bind (whole? · m.code) else none
  match composed with
  | some code => { a with base := some code }
  | none =>
    if m.cls = 0 then ⟨a.taken, some m.code, []⟩
    else if a.base.isNone then { a with done := m.code :: a.done }
    else { a with marks := m :: a.marks }

end Assembly

def composed (cs : List Char) : List Char :=
  if cs.all (·.toNat < 0x300) then cs
  else
    let a := (ordered (cs.flatMap decomposed)).foldl Assembly.add ⟨[], none, []⟩
    a.taken.reverse.map Char.ofNat

end Extremum.Text
