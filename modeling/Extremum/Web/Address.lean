import Extremum.Text.Blank
import Extremum.Web.Host

/-!
# Web addresses

An address is read leniently and written in one form: scheme and host in lower case, the number
after the host left out where it is the usual one of the scheme, steps `.` and `..` of the path
taken, and characters that may not stand in an address written as percent signs and hexadecimal
digits.
-/

namespace Extremum.Web

/-- An address in its parts, each as it is written. -/
structure Address where
  scheme : String
  /-- What stands between the scheme and the path. -/
  authority : String
  path : String
  query : Option String
  fragment : Option String

def Address.text (a : Address) : String :=
  a.scheme ++ "://" ++ a.authority ++ a.path ++
    ((a.query.map ("?" ++ ·)).getD "") ++ ((a.fragment.map ("#" ++ ·)).getD "")

/-- The schemes whose addresses name a host, with the usual number after it. -/
def hostSchemes : List (String × Nat) :=
  [("http", 80), ("https", 443), ("ws", 80), ("wss", 443), ("ftp", 21)]

/-- A scheme and what follows its colon. -/
def splitScheme? (cs : List Char) : Option (String × List Char) :=
  let isPart := fun (c : Char) => c.isAlphanum || c = '+' || c = '-' || c = '.'
  match cs, cs.dropWhile isPart with
  | c :: _, ':' :: rest =>
    if c.isAlpha then
      some (String.ofList ((cs.takeWhile isPart).map Char.toLower), rest)
    else none
  | _, _ => none

/-- What stands before and after the last `@`. -/
def splitUser (cs : List Char) : List Char × List Char :=
  let reversed := cs.reverse
  match reversed.dropWhile (· ≠ '@') with
  | '@' :: user => (user.reverse, (reversed.takeWhile (· ≠ '@')).reverse)
  | _ => ([], cs)

/-- A user name and a password in writing; a part that is empty is left out. -/
def userText (cs : List Char) : List Char :=
  let name := cs.takeWhile (· ≠ ':')
  let password := (cs.dropWhile (· ≠ ':')).drop 1
  if name.isEmpty ∧ password.isEmpty then []
  else
    written escapedInUser name ++
      (if password.isEmpty then [] else ':' :: written escapedInUser password) ++ ['@']

/-- A host and what follows its colon; a colon in brackets belongs to the host. -/
def splitHost (inBrackets : Bool) : List Char → List Char × Option (List Char)
  | [] => ([], none)
  | c :: rest =>
    if c = ':' ∧ ¬ inBrackets then ([], some rest)
    else
      let (left, right) := splitHost (if c = '[' then true else if c = ']' then false
        else inBrackets) rest
      (c :: left, right)

/-- The number after a host in writing; the usual one of the scheme is left out. -/
def hostNumber (usual : Nat) : Option (List Char) → Except AddressFault (List Char)
  | none | some [] => .ok []
  | some digits =>
    if ¬ digits.all Char.isDigit then .error .invalidNumber
    else
      let number := digits.foldl (fun n d => 10 * n + (d.toNat - '0'.toNat)) 0
      if 65535 < number then .error .invalidNumber
      else .ok (if number = usual then [] else ':' :: (toString number).toList)

/-- A segment with its percent forms of points undone. -/
def withoutDotForms (segment : List Char) : String :=
  ((String.ofList (segment.map Char.toLower)).replace "%2e" ".")

/-- The segment is a letter with a colon or a bar, like the name of a drive. -/
def isDrive : List Char → Bool
  | [letter, mark] => letter.isAlpha && (mark = ':' || mark = '|')
  | _ => false

/--
The segments of a path after all steps have been taken; `done` has the last one first. No step leads
out of a drive.
-/
def takeSteps (done : List (List Char)) : List (List Char) → List (List Char)
  | [] => done.reverse
  | segment :: rest =>
    let ending := if rest.isEmpty then [[]] else []
    if withoutDotForms segment = ".." then
      takeSteps (ending ++ (if done.head?.any isDrive then done else done.drop 1)) rest
    else if withoutDotForms segment = "." then takeSteps (ending ++ done) rest
    else takeSteps (written escapedInPath segment :: done) rest

def isSlash (c : Char) : Bool := c = '/' || c = '\\'

def pathText (cs : List Char) : List Char :=
  let segments := takeSteps [] (Text.parts isSlash (cs.drop 1))
  segments.flatMap ('/' :: ·)

/-- The part from a mark on, if there is one, without the mark. -/
def afterMark (mark : Char) (cs : List Char) : Option (List Char) :=
  match cs.dropWhile (· ≠ mark) with
  | _ :: rest => some rest
  | [] => none

/-- What a text without margins, tabs and line breaks holds. -/
def trimmed (cs : List Char) : List Char :=
  (Text.trimBoth (·.toNat ≤ 0x20) cs).filter fun c => c ≠ '\t' ∧ c ≠ '\n' ∧ c ≠ '\r'

/-- The characters that end the part of an address with the host. -/
def isEnd (c : Char) : Bool := "/\\?#".toList.contains c

/-- The part with the host, with the user and the number in writing. -/
def authority (usual : Nat) (cs : List Char) : Except AddressFault (List Char) := do
  let (user, hostPart) := splitUser cs
  let (name, digits?) := splitHost false hostPart
  let hostText ← host name
  return userText user ++ hostText ++ (← hostNumber usual digits?)

/--
Fails if what follows the two slashes of an address names no host in the right form. The scheme says
nothing about its hosts: there need not be one, unless a user or a number goes with it.
-/
def checkAuthority (cs : List Char) : Except AddressFault Unit := do
  let part := cs.takeWhile fun c => c ≠ '/' ∧ c ≠ '?' ∧ c ≠ '#'
  let (user, hostPart) := splitUser part
  if part = ['@'] ∧ part.length < cs.length then throw .emptyHost
  let (name, digits?) := splitHost false hostPart
  let _ ← anyHost name
  if name.isEmpty ∧ digits?.isSome then throw .emptyHost
  let _ ← hostNumber 0 (digits?.map (·.takeWhile (· ≠ '\\')))
  if name.isEmpty ∧ ¬ (userText user).isEmpty then throw .emptyHost

/-- Fails if a file stands at a host that is named in a wrong form. A drive is no host. -/
def checkFileHost (cs : List Char) : Except AddressFault Unit := do
  match cs with
  | a :: b :: rest =>
    let name := rest.takeWhile (!isEnd ·)
    if isSlash a ∧ isSlash b ∧ ¬ name.isEmpty ∧ ¬ isDrive name then
      let _ ← host name
  | _ => return

/-- The address of a scheme with hosts; `rest` is what follows its colon. -/
def hostAddress (scheme : String) (usual : Nat) (rest : List Char) :
    Except AddressFault Address := do
  let rest := rest.dropWhile isSlash
  let authority ← authority usual (rest.takeWhile (!isEnd ·))
  let beforeFragment := (rest.dropWhile (!isEnd ·)).takeWhile (· ≠ '#')
  return {
    scheme := scheme
    authority := String.ofList authority
    path := String.ofList (pathText (beforeFragment.takeWhile (· ≠ '?')))
    query := (afterMark '?' beforeFragment).map (String.ofList <| written escapedInQuery ·)
    fragment := (afterMark '#' rest).map (String.ofList <| written escapedInFragment ·) }

/-- Reads an address. Of addresses of schemes without hosts, only the scheme is kept. -/
def Address.ofText (s : String) : Except AddressFault Address := do
  match splitScheme? (trimmed s.toList) with
  | none => throw .relative
  | some (scheme, rest) =>
    match hostSchemes.lookup scheme with
    | some usual => hostAddress scheme usual rest
    | none =>
      if scheme = "file" then checkFileHost rest
      else if rest.take 2 = ['/', '/'] then checkAuthority (rest.drop 2)
      return ⟨scheme, "", "", none, none⟩

/-- The scheme of an address and its written form. -/
def Address.read (s : String) : Except String (String × String) :=
  match Address.ofText s with
  | .ok address => .ok (address.scheme, address.text)
  | .error fault => .error fault.message

end Extremum.Web
