import Diagnosis.Encoding.Utf8
import Diagnosis.Uri.Host

/-!
# Addresses of files

The address of a path, in which every byte that is not plain is written as a
per cent sign and two digits, and the path of an address. An address with
another scheme than that of files stands for itself.
-/

namespace Diagnosis.Uri

open Diagnosis.Encoding
open Diagnosis.Text (hexValue?)

/-- Whether a byte of a path is written as it is. -/
def isPlain (b : Nat) : Bool :=
  (48 ≤ b && b ≤ 57) || (65 ≤ b && b ≤ 90) || (97 ≤ b && b ≤ 122) || b == 45 || b == 46 || b == 47 ||
    b == 95 || b == 126

/-- A digit of an escape. -/
def upperHex (n : Nat) : Char := if n < 10 then Char.ofNat (48 + n) else Char.ofNat (55 + n)

/-- A byte in an address. -/
def escapeByte (b : Nat) : List Char :=
  if isPlain b then [Char.ofNat b] else ['%', upperHex (b / 16), upperHex (b % 16)]

/-- The address of a path. -/
def ofPath (path : String) : String :=
  String.ofList ("file://".toList ++ (Utf8.encode path.toList).flatMap escapeByte)

/-- The bytes of ASCII text with its escapes undone; a per cent sign without two digits stays. -/
def unescape : List Char → List Nat
  | [] => []
  | '%' :: a :: b :: rest =>
    match hexValue? a, hexValue? b with
    | some x, some y => (16 * x + y) :: unescape rest
    | _, _ => 37 :: unescape (a :: b :: rest)
  | c :: rest => c.toNat :: unescape rest

/-- A text with its escapes undone in each stretch of ASCII; bytes that are no characters become
replacement characters. `ascii` is the stretch so far, last first. -/
def unescapeText (ascii : List Char) : List Char → List Char
  | [] => Utf8.decodeLossy (unescape ascii.reverse)
  | c :: rest =>
    if c.toNat < 128 then unescapeText (c :: ascii) rest
    else Utf8.decodeLossy (unescape ascii.reverse) ++ c :: unescapeText [] rest

/-- A control character of ASCII or a blank. -/
def isControlOrSpace (c : Char) : Bool := c.toNat ≤ 32

/-- Whether a character may stand in a scheme. -/
def inScheme (c : Char) : Bool := c.isAlphanum || c == '+' || c == '-' || c == '.'

/-- The scheme at the front of an address in small letters, and what follows its colon. -/
def splitScheme (cs : List Char) : List Char × List Char :=
  let scheme := cs.takeWhile (· != ':')
  if scheme.length < cs.length && (scheme.head?.any Char.isAlpha) && scheme.all inScheme then
    (scheme.map Char.toLower, cs.drop (scheme.length + 1))
  else ([], cs)

/-- The host after two slashes, and what follows it. -/
def splitHost : List Char → List Char × List Char
  | '/' :: '/' :: rest =>
    let host := rest.takeWhile fun c => c != '/' && c != '?' && c != '#'
    (host, rest.drop host.length)
  | cs => ([], cs)

/-- The path of an address, or what is wrong with its host. -/
def toPath (address : String) : Except String String :=
  let cs := (address.toList.dropWhile isControlOrSpace).filter fun c => c != '\t' && c != '\r' && c != '\n'
  let (scheme, rest) := splitScheme cs
  let (host, rest) := splitHost rest
  match hostFault? host with
  | some fault => .error fault
  | none =>
    match disguiseFault? host with
    | some fault => .error fault
    | none =>
      let path := rest.takeWhile fun c => c != '#' && c != '?'
      if scheme = "file".toList then .ok (String.ofList (unescapeText [] path)) else .ok address

end Diagnosis.Uri
