import Diagnosis.Encoding.Basic
import Diagnosis.Text.Quoted
import Diagnosis.Unicode.Case

/-!
# Domain names

Punycode writes letters outside ASCII as numbers after the ASCII letters of a
name: each number tells how many places and code points to go on before the
next letter is put in. Labels of domain names are in it after a prefix.
-/

namespace Diagnosis.Encoding

open Diagnosis.Text (decimal quotedText)

/-- Why bytes that are read as a whole give no text. -/
inductive Refusal where
  /-- Some bytes mean nothing. -/
  | fault (e : DecodeError)
  /-- What they spell cannot be. -/
  | reason (text : String)
  /-- What they spell is not written the way it is. -/
  | mismatch (text : String)
  deriving DecidableEq, Repr

/-- Bytes that must be ASCII. -/
def asciiPart (bytes : List Nat) : Except Refusal (List Nat) :=
  match decodeAll "ascii" asciiStep 0 bytes with
  | .ok _ => .ok bytes
  | .error e => .error (.fault e)

/-- The text of code points; half surrogate pairs are replaced. -/
def textOf (codes : List Nat) : List Char :=
  codes.map fun n => if n.isValidChar then charOf n else '\uFFFD'

namespace Punycode

/-! ## Numbers -/

/-- The value of a digit, in upper case. -/
def digit? (b : Nat) : Option Nat :=
  if 0x41 ≤ b ∧ b ≤ 0x5A then some (b - 0x41)
  else if 0x30 ≤ b ∧ b ≤ 0x39 then some (b - 0x30 + 26)
  else none

/-- The least value of a last digit at a place. -/
def threshold (place bias : Nat) : Nat :=
  let n := 36 * (place + 1)
  if n ≤ bias + 1 then 1 else if bias + 26 ≤ n then 26 else n - bias

/-- Divides a number by 35 until it is small; the divisions count 36 each. -/
def scale (fuel divisions delta : Nat) : Nat × Nat :=
  match fuel with
  | 0 => (divisions, delta)
  | fuel + 1 => if 455 < delta then scale fuel (divisions + 36) (delta / 35) else (divisions, delta)

/-- The bias after a number, given how many letters there are then. -/
def adapt (delta : Nat) (first : Bool) (letters : Nat) : Nat :=
  let damped := if first then delta / 700 else delta / 2
  let (divisions, rest) := scale delta 0 (damped + damped / letters)
  divisions + 36 * rest / (rest + 38)

/-! ## Decoding -/

/-- The number at the front of some digits, and the digits after it. -/
def numberFrom (bias place weight sum : Nat) : List Nat → Except Refusal (Nat × List Nat)
  | [] => .error (.reason "incomplete punicode string")
  | b :: bs =>
    match digit? b with
    | none => .error (.reason ("Invalid extended code point '" ++ String.singleton (charOf b) ++ "'"))
    | some d =>
      let t := threshold place bias
      if d < t then .ok (sum + d * weight, bs)
      else numberFrom bias (place + 1) (weight * (36 - t)) (sum + d * weight) bs

/-- A number in hexadecimal digits. -/
def hex (n : Nat) : String := String.ofList (Nat.toDigits 16 n)

/-- Puts letters in, at most so many: the code point so far, the next place, the bias, the digits
left and the letters so far. -/
def insertFrom : Nat → Bool → Nat → Nat → Nat → List Nat → List Nat → Except Refusal (List Nat)
  | 0, _, _, _, _, _, letters => .ok letters
  | _, _, _, _, _, [], letters => .ok letters
  | fuel + 1, first, code, place, bias, b :: bs, letters => do
    let (delta, rest) ← numberFrom bias 0 1 0 (b :: bs)
    let size := letters.length + 1
    let next := code + (place + delta) / size
    if 0x10FFFF < next then throw (.reason ("Invalid character U+" ++ hex next))
    let here := (place + delta) % size
    insertFrom fuel false next (here + 1) (adapt delta first size) rest
      (letters.take here ++ next :: letters.drop here)

/-- What is before the last hyphen, if there is one, and what is after it. -/
def parts (bytes : List Nat) : Option (List Nat) × List Nat :=
  let after := bytes.reverse.takeWhile (· ≠ 0x2D)
  if after.length = bytes.length then (none, bytes)
  else (some (bytes.take (bytes.length - after.length - 1)), after.reverse)

/-- The upper case of an ASCII byte. -/
def upper (b : Nat) : Nat := if 0x61 ≤ b ∧ b ≤ 0x7A then b - 32 else b

/-- The code points of bytes. -/
def codes (bytes : List Nat) : Except Refusal (List Nat) := do
  let (base, extended) := parts bytes
  let base ← asciiPart (base.getD [])
  let extended ← asciiPart extended
  insertFrom extended.length true 0x80 0 72 (extended.map upper) base

/-- Decodes bytes. -/
def decode (bytes : List Nat) : Except Refusal (List Char) := (codes bytes).map textOf

/-! ## Encoding -/

/-- The digit of a value. -/
def digit (n : Nat) : Nat := if n < 26 then 0x61 + n else 0x30 + (n - 26)

/-- The digits of a number, at most so many. -/
def digitsOf (bias : Nat) : Nat → Nat → Nat → List Nat
  | 0, _, _ => []
  | fuel + 1, place, n =>
    let t := threshold place bias
    if n < t then [digit n]
    else digit (t + (n - t) % (36 - t)) :: digitsOf bias fuel (place + 1) ((n - t) / (36 - t))

/-- What has been written so far. -/
structure Writing where
  /-- The digits. -/
  digits : List Nat
  /-- The number that has come together. -/
  delta : Nat
  bias : Nat
  /-- How many letters are written. -/
  count : Nat
  first : Bool

/-- Goes past one letter when those of a code point are written. -/
def Writing.pass (code : Nat) (w : Writing) (letter : Nat) : Writing :=
  if letter < code then { w with delta := w.delta + 1 }
  else if letter = code then
    { digits := w.digits ++ digitsOf w.bias (w.delta + 1) 0 w.delta, delta := 0,
      bias := adapt w.delta w.first (w.count + 1), count := w.count + 1, first := false }
  else w

/-- Writes the letters of code points in ascending order, after those below a code point. -/
def writeFrom (letters : List Nat) (w : Writing) (done : Nat) : List Nat → List Nat
  | [] => w.digits
  | code :: rest =>
    let start := { w with delta := w.delta + (code - done) * (w.count + 1) }
    let passed := letters.foldl (Writing.pass code) start
    writeFrom letters { passed with delta := passed.delta + 1 } (code + 1) rest

/-- The bytes of code points. -/
def encode (letters : List Nat) : List Nat :=
  let base := letters.filter (· < 0x80)
  let others := ((letters.filter (0x80 ≤ ·)).mergeSort (· ≤ ·)).eraseDups
  let digits := writeFrom letters ⟨[], 0, 72, base.length, true⟩ 0x80 others
  if base.isEmpty then digits else base ++ 0x2D :: digits

end Punycode

namespace Domain

/-- The prefix of labels in Punycode. -/
def mark : List Nat := [0x78, 0x6E, 0x2D, 0x2D]

/-- A label that has neither too few bytes nor too many. -/
def sized (label : List Nat) : Except Refusal (List Nat) :=
  if 0 < label.length ∧ label.length < 64 then .ok label else .error (.reason "label empty or too long")

/-- The bytes of a label of code points. Letters outside ASCII are compared in lower case. -/
def toAscii (label : List Nat) : Except Refusal (List Nat) :=
  if label.all (· < 0x80) then sized label else
  let lower := label.map Unicode.toLower
  if lower.all (· < 0x80) then sized lower
  else if mark.isPrefixOf lower then .error (.reason "Label starts with ACE prefix")
  else sized (mark ++ Punycode.encode lower)

/-- Bytes in quotes. -/
def quotedBytes (bytes : List Nat) : String := "b" ++ quotedText (String.ofList (bytes.map charOf))

/-- The lower case of an ASCII byte. -/
def lower (b : Nat) : Nat := if 0x41 ≤ b ∧ b ≤ 0x5A then b + 32 else b

/-- The code points of a label, which must be what they are written as. -/
def toUnicode (label : List Nat) : Except Refusal (List Nat) :=
  if mark.isPrefixOf label then do
    let result ← match Punycode.codes (label.drop 4) with
      | .error (.reason text) =>
        .error (.reason ("decoding with 'punycode' codec failed (UnicodeError: " ++ text ++ ")"))
      | result => result
    let again ← toAscii result
    if label.map lower = again then return result
    else throw (.mismatch ("('IDNA does not round-trip', " ++ quotedBytes label ++ ", " ++ quotedBytes again ++ ")"))
  else asciiPart label

/-- The labels that dots separate. -/
def labels : List Nat → List (List Nat)
  | [] => [[]]
  | b :: bs =>
    if b = 0x2E then [] :: labels bs
    else match labels bs with
      | label :: rest => (b :: label) :: rest
      | [] => [[b]]

/-- Decodes bytes. -/
def decode (bytes : List Nat) : Except Refusal (List Char) := do
  let texts ← (labels bytes).mapM toUnicode
  return textOf (List.intercalate [0x2E] texts)

end Domain

end Diagnosis.Encoding
