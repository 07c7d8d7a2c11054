import Diagnosis.Text.Digits
import Diagnosis.Text.Quoted

/-!
# Hosts in brackets

A host in brackets has to be an address of version six, or of a future version
that says so. A host must not have characters that stand for the delimiters of
addresses in disguise.
-/

namespace Diagnosis.Uri

open Diagnosis.Text (hexValue? quoted)

/-- The pieces of a text between separators. -/
def splitAt (separator : Char) : List Char → List (List Char)
  | [] => [[]]
  | c :: rest =>
    if c = separator then [] :: splitAt separator rest
    else match splitAt separator rest with
      | [] => [[c]]
      | piece :: pieces => (c :: piece) :: pieces

/-- A number below 256 in decimal without needless zeros. -/
def isOctet (cs : List Char) : Bool :=
  ! cs.isEmpty && cs.length ≤ 3 && cs.all Char.isDigit && (cs.length == 1 || cs.head? != some '0') &&
    cs.foldl (fun n c => 10 * n + (c.toNat - 48)) 0 ≤ 255

/-- Four numbers between dots. -/
def isVersionFour (cs : List Char) : Bool :=
  let parts := splitAt '.' cs
  parts.length == 4 && parts.all isOctet

/-- One to four hexadecimal digits. -/
def isHextet (cs : List Char) : Bool :=
  ! cs.isEmpty && cs.length ≤ 4 && cs.all fun c => (hexValue? c).isSome

/-- Whether pieces between colons make up an address: eight groups, or fewer on the two sides of
one empty piece, where the outermost piece may be empty if it is next to it. -/
def areGroups (parts : List (List Char)) : Bool :=
  if parts.length < 3 || 9 < parts.length then false else
  let inner := (parts.drop 1).dropLast
  let gaps := inner.countP List.isEmpty
  if gaps == 0 then parts.length == 8 && parts.all isHextet
  else if gaps == 1 then
    let before := parts.takeWhile (! ·.isEmpty)
    let before := if parts.head? == some [] then [] else before
    let left := if parts.head? == some [] then 1 else 0
    let gap := left + (parts.drop left).findIdx List.isEmpty
    let after := parts.drop (gap + 1)
    let right := after.getLast? == some []
    let low := if right then after.dropLast else after
    (left == 0 || gap == 1) && (! right || low.isEmpty) && before.length + low.length ≤ 7 &&
      before.all isHextet && low.all isHextet
  else false

/-- An address of version six, whose last group may be an address of version four, and which a
per cent sign may separate from the name of a zone. -/
def isVersionSix (cs : List Char) : Bool :=
  let address := cs.takeWhile (· != '%')
  let zone := cs.drop (address.length + 1)
  let zoned := address.length < cs.length
  if zoned && (zone.isEmpty || zone.contains '%') then false else
  let parts := splitAt ':' address
  match parts.getLast? with
  | none => false
  | some last =>
    if parts.length < 3 then false
    else if last.contains '.' then
      isVersionFour last && areGroups (parts.dropLast ++ [['0'], ['0']])
    else areGroups parts

/-- An address of a future version: its version in hexadecimal, a dot, and something. -/
def isFuture : List Char → Bool
  | 'v' :: rest =>
    let version := rest.takeWhile fun c => (hexValue? c).isSome
    match rest.drop version.length with
    | '.' :: tail => ! version.isEmpty && ! tail.isEmpty && ! tail.contains '\n'
    | _ => false
  | _ => false

/-- What is wrong with a host in brackets. -/
def bracketFault? (host : List Char) : Option String :=
  if host.head? == some 'v' then
    if isFuture host then none else some "IPvFuture address is invalid"
  else if isVersionFour host then some "An IPv4 address cannot be in brackets"
  else if isVersionSix host then none
  else some (String.ofList (quoted host) ++ " does not appear to be an IPv4 or IPv6 address")

/-- The characters that stand for a delimiter of addresses in disguise. -/
def disguised : List Nat :=
  [0x2047, 0x2048, 0x2049, 0x2100, 0x2101, 0x2105, 0x2106, 0x2A74, 0xFE13, 0xFE16, 0xFE55, 0xFE56,
    0xFE5F, 0xFE6B, 0xFF03, 0xFF0F, 0xFF1A, 0xFF1F, 0xFF20]

/-- What is wrong with the host of an address. -/
def hostFault? (host : List Char) : Option String :=
  let opens := host.contains '['
  let closes := host.contains ']'
  if opens != closes then some "Invalid IPv6 URL"
  else if opens then
    bracketFault? (((host.dropWhile (· != '[')).drop 1).takeWhile (· != ']'))
  else none

/-- What is wrong with the characters of the host of an address. -/
def disguiseFault? (host : List Char) : Option String :=
  if host.any fun c => disguised.contains c.toNat then
    some ("netloc '" ++ String.ofList host ++ "' contains invalid characters under NFKC normalization")
  else none

end Diagnosis.Uri
