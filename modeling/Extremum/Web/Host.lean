import Extremum.Decimal.Reading
import Extremum.Web.Domain
import Extremum.Web.Percent

/-!
# Hosts

A host is a domain name, an address of four bytes, or one of eight groups in brackets. Where a
scheme says nothing about its hosts, any text without certain characters will do for a domain name.
-/

namespace Extremum.Web

/-- Why a text is not an address. -/
inductive AddressFault where
  | relative
  | emptyHost
  | invalidNumber
  | invalidDomain
  | forbiddenCharacter
  | invalidIpv4
  | invalidIpv6
deriving DecidableEq, Repr

def AddressFault.message : AddressFault → String
  | relative => "relative URL without a base"
  | emptyHost => "empty host"
  | invalidNumber => "invalid port number"
  | invalidDomain => "invalid international domain name"
  | forbiddenCharacter => "invalid domain character"
  | invalidIpv4 => "invalid IPv4 address"
  | invalidIpv6 => "invalid IPv6 address"

/-! ## Addresses of four bytes -/

/-- A number in decimal, in octal after `0`, or in hexadecimal after `0x`. -/
def ipv4Number? (cs : List Char) : Option Nat :=
  let digits (base : Nat) (ds : List Char) : Option Nat :=
    ds.foldl (fun n? d => do
      let n ← n?
      let v ← Text.hexValue? d
      if v < base then some (base * n + v) else none) (some 0)
  match cs with
  | [] => none
  | '0' :: x :: rest => if x = 'x' ∨ x = 'X' then digits 16 rest else digits 8 (x :: rest)
  | cs => digits 10 cs

/-- The labels of a domain, without an empty one at the end. -/
def domainLabels (domain : List Char) : List (List Char) :=
  let labels := Text.parts (· = '.') domain
  if labels.length > 1 ∧ labels.getLast? = some [] then labels.dropLast else labels

/-- The last label is a number, so that the domain has to be an address of four bytes. -/
def endsInNumber (domain : List Char) : Bool :=
  match (domainLabels domain).getLast? with
  | some label =>
    (!label.isEmpty && label.all Char.isDigit) ||
      (label.take 2 == ['0', 'x'] && (ipv4Number? label).isSome)
  | none => false

/-- An address of four bytes; the last part may stand for several of them. -/
def ipv4? (domain : List Char) : Option (List Char) := do
  let numbers ← (domainLabels domain).mapM ipv4Number?
  if numbers.isEmpty ∨ 4 < numbers.length then none
  let last ← numbers.getLast?
  let others := numbers.dropLast
  if others.any (255 < ·) ∨ Nat.pow 256 (5 - numbers.length) ≤ last then none
  let spread := (List.range (5 - numbers.length)).reverse.map fun i => last / Nat.pow 256 i % 256
  return (".".intercalate ((others ++ spread).map toString)).toList

/-! ## Addresses of eight groups -/

/-- A byte in decimal, without leading zeros. -/
def plainByte? (cs : List Char) : Option Nat :=
  if cs.isEmpty ∨ ¬ cs.all Char.isDigit ∨ (cs.length > 1 ∧ cs.head? = some '0') then none
  else
    let n := Decimal.digitsValue cs
    if n < 256 then some n else none

/-- A group of sixteen bits in hexadecimal. -/
def ipv6Group? (cs : List Char) : Option Nat :=
  if cs.isEmpty ∨ 4 < cs.length then none
  else cs.foldlM (fun n d => return 16 * n + (← Text.hexValue? d)) 0

/-- The last part of an address of eight groups: one group, or two groups as four bytes. -/
def ipv6Ending? (cs : List Char) : Option (List Nat) :=
  match Text.parts (· = '.') cs with
  | [group] => (ipv6Group? group).map ([·])
  | bytes =>
    match bytes.mapM plainByte? with
    | some [a, b, c, d] => some [256 * a + b, 256 * c + d]
    | _ => none

/-- The groups of one side of an address of eight groups; `ends` tells that nothing follows. -/
def ipv6Groups? (ends : Bool) (cs : List Char) : Option (List Nat) :=
  let groups := Text.parts (· = ':') cs
  if cs.isEmpty then some []
  else if ends then do
    let ending ← ipv6Ending? (← groups.getLast?)
    return (← groups.dropLast.mapM ipv6Group?) ++ ending
  else groups.mapM ipv6Group?

/-- The two sides of the first `::`. -/
def splitGap : List Char → Option (List Char × List Char)
  | ':' :: ':' :: rest => some ([], rest)
  | c :: rest => (splitGap rest).map fun (left, right) => (c :: left, right)
  | [] => none

/-- The place and the length of the longest run of zeros; the first one of several. -/
def longestZeros (groups : List Nat) : Nat × Nat :=
  (List.range groups.length).foldl (fun best i =>
    let run := ((groups.drop i).takeWhile (· = 0)).length
    if best.2 < run then (i, run) else best) (0, 0)

/-- An address of eight groups in writing; the longest run of at least two zeros is left out. -/
def ipv6Text (groups : List Nat) : List Char :=
  let hexes := groups.map (Text.hex 1)
  let join := fun (parts : List (List Char)) => (parts.intersperse [':']).flatten
  let (start, run) := longestZeros groups
  if run < 2 then join hexes
  else join (hexes.take start) ++ [':', ':'] ++ join (hexes.drop (start + run))

def ipv6? (cs : List Char) : Option (List Char) := do
  let groups ←
    match splitGap cs with
    | none => ipv6Groups? true cs
    | some (left, right) => do
      let left ← ipv6Groups? false left
      let right ← ipv6Groups? true right
      if 8 ≤ left.length + right.length then none
      else some (left ++ List.replicate (8 - left.length - right.length) 0 ++ right)
  if groups.length = 8 then some (ipv6Text groups) else none

/-! ## All hosts -/

/-- A host in brackets in writing; `inner` is what follows the opening one. -/
def bracketedHost (inner : List Char) : Except AddressFault (List Char) :=
  if inner.getLast? = some ']' then
    match ipv6? inner.dropLast with
    | some text => .ok ('[' :: text ++ [']'])
    | none => .error .invalidIpv6
  else .error .invalidIpv6

/-- A domain name, or what stands for one, in writing. -/
def domainHost (cs : List Char) : Except AddressFault (List Char) :=
  let name? := (String.fromUTF8? ⟨(unescapedBytes cs).toArray⟩).bind (asciiDomain? ·.toList)
  match name? with
  | none => .error .invalidDomain
  | some [] => .error .emptyHost
  | some domain =>
    if endsInNumber domain then
      match ipv4? domain with
      | some text => .ok text
      | none => .error .invalidIpv4
    else .ok domain

def host : List Char → Except AddressFault (List Char)
  | [] => .error .emptyHost
  | '[' :: inner => bracketedHost inner
  | cs => domainHost cs

/-- Characters that no host may hold, whatever the scheme. -/
def forbiddenInHost (c : Char) : Bool :=
  c.toNat = 0 || "\t\n\r #/:<>?@[\\]^|".toList.contains c

/-- A host in writing, of a scheme that says nothing about its hosts. It may be empty. -/
def anyHost : List Char → Except AddressFault (List Char)
  | '[' :: inner => bracketedHost inner
  | cs => if cs.any forbiddenInHost then .error .forbiddenCharacter else .ok (written isControl cs)

end Extremum.Web
