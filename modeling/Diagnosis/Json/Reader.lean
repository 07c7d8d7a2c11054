import Diagnosis.Json.Value
import Diagnosis.Text.Digits

/-!
# Reading JSON text

A reader for one JSON value. Besides the standard grammar it takes the words
`NaN`, `Infinity` and `-Infinity`; whole numbers may have at most 4300 digits.
An error names what was expected and where.
-/

namespace Diagnosis.Json

open Diagnosis.Number (Binary64)
open Diagnosis.Text (decimal hexValue?)

/-- What is wrong with a text. -/
inductive Fault where
  | value
  | name
  | colon
  | comma
  | unterminated
  | control
  | badEscape
  | badUnit
  | extra
  | mark
  deriving DecidableEq, Repr

/-- The words for a fault. -/
def Fault.message : Fault → String
  | .value => "Expecting value"
  | .name => "Expecting property name enclosed in double quotes"
  | .colon => "Expecting ':' delimiter"
  | .comma => "Expecting ',' delimiter"
  | .unterminated => "Unterminated string starting at"
  | .control => "Invalid control character at"
  | .badEscape => "Invalid \\escape"
  | .badUnit => "Invalid \\uXXXX escape"
  | .extra => "Extra data"
  | .mark => "Unexpected UTF-8 BOM (decode using utf-8-sig)"

/-- Why a text was not read. -/
inductive Error where
  /-- A fault at an offset of the text. -/
  | fault (what : Fault) (offset : Nat)
  /-- A whole number with too many digits. -/
  | digits (count : Nat)
  deriving DecidableEq, Repr

/-- The line and column of an offset in a text, both from one. -/
def lineColumn (cs : List Char) (offset : Nat) : Nat × Nat :=
  (cs.take offset).foldl (fun (line, column) c => if c == '\n' then (line + 1, 1) else (line, column + 1)) (1, 1)

/-- The message of an error about a text. -/
def Error.message (cs : List Char) : Error → String
  | .fault what offset =>
    let (line, column) := lineColumn cs offset
    what.message ++ ": line " ++ decimal line ++ " column " ++ decimal column ++ " (char " ++ decimal offset ++ ")"
  | .digits count =>
    "Exceeds the limit (4300 digits) for integer string conversion: value has " ++ decimal count ++
      " digits; use sys.set_int_max_str_digits() to increase the limit"

/-- What is left of a text, and the offset where it begins. -/
structure Cursor where
  rest : List Char
  offset : Nat

namespace Cursor

/-- Past so many characters. -/
def skip (c : Cursor) (n : Nat) : Cursor := ⟨c.rest.drop n, c.offset + n⟩

/-- Past the blanks of JSON. -/
def skipBlanks : List Char → Nat → Cursor
  | [], n => ⟨[], n⟩
  | c :: rest, n =>
    if c == ' ' || c == '\n' || c == '\t' || c == '\r' then skipBlanks rest (n + 1) else ⟨c :: rest, n⟩

/-- Past the blanks of JSON. -/
def blanks (c : Cursor) : Cursor := skipBlanks c.rest c.offset

/-- Stops at a fault here. -/
def fail {α : Type} (c : Cursor) (what : Fault) : Except Error α := .error (.fault what c.offset)

end Cursor

/-- The character of an escape with one letter. -/
def simpleEscape? (c : Char) : Option Char :=
  if c == '"' || c == '\\' || c == '/' then some c
  else if c == 'b' then some '\x08'
  else if c == 'f' then some '\x0c'
  else if c == 'n' then some '\n'
  else if c == 'r' then some '\r'
  else if c == 't' then some '\t'
  else none

/-- The unit that the next four hexadecimal digits spell. -/
def unit? (rest : List Char) : Option Nat :=
  if 4 ≤ rest.length then (rest.take 4).foldlM (fun n c => (hexValue? c).map (16 * n + ·)) 0 else none

/-- What stands after the letter of a unit escape: a character, from two units when the first is
the upper half of a pair and the lower half follows, and how many characters it takes. At least
one more character has to follow. An unpaired half becomes the replacement character. -/
def readUnits (rest : List Char) (offset : Nat) : Except Error (Char × Nat) :=
  if rest.length ≤ 4 then .error (.fault .badUnit (offset - 1)) else
  match unit? rest with
  | none => .error (.fault .badUnit (offset - 1))
  | some high =>
    if 0xD800 ≤ high ∧ high < 0xDC00 ∧ 10 < rest.length ∧ (rest.drop 4).take 2 = ['\\', 'u'] then
      match unit? (rest.drop 6) with
      | none => .error (.fault .badUnit (offset + 5))
      | some low =>
        if 0xDC00 ≤ low ∧ low < 0xE000 then
          .ok (Char.ofNat (0x10000 + (high - 0xD800) * 0x400 + (low - 0xDC00)), 10)
        else .ok ('\uFFFD', 4)
    else if 0xD800 ≤ high ∧ high < 0xE000 then .ok ('\uFFFD', 4)
    else .ok (Char.ofNat high, 4)

/-- The rest of a string that began at `start`, up to its closing quotation mark. -/
def readString (start : Nat) : Nat → Cursor → List Char → Except Error (String × Cursor)
  | 0, _, _ => .error (.fault .unterminated start)
  | fuel + 1, c, read =>
    match c.rest with
    | [] => .error (.fault .unterminated start)
    | '"' :: rest => .ok (String.ofList read.reverse, ⟨rest, c.offset + 1⟩)
    | ['\\'] => .error (.fault .unterminated start)
    | '\\' :: 'u' :: rest => do
      let (x, n) ← readUnits rest (c.offset + 2)
      readString start fuel (c.skip (n + 2)) (x :: read)
    | '\\' :: x :: rest =>
      match simpleEscape? x with
      | none => c.fail .badEscape
      | some y => readString start fuel ⟨rest, c.offset + 2⟩ (y :: read)
    | x :: rest =>
      if x.val ≤ 0x1f then c.fail .control
      else readString start fuel ⟨rest, c.offset + 1⟩ (x :: read)

/-- A string whose opening quotation mark stands here. -/
def Cursor.string (c : Cursor) : Except Error (String × Cursor) :=
  readString c.offset (c.rest.length + 1) (c.skip 1) []

/-- The number a run of digits spells. -/
def digitsValue (ds : List Char) : Nat := ds.foldl (fun n d => 10 * n + (d.toNat - 48)) 0

/-- A number: its sign, whole digits, fraction digits if a point with a digit follows, and
exponent if a letter with a digit follows. -/
def Cursor.number (c : Cursor) : Except Error (Value × Cursor) :=
  let (negative, body) := match c.rest with
    | '-' :: rest => (true, rest)
    | rest => (false, rest)
  let whole := match body with
    | '0' :: _ => ['0']
    | rest => rest.takeWhile Char.isDigit
  if whole.isEmpty then c.fail .value else
  let after := body.drop whole.length
  let fraction := match after with
    | '.' :: rest => rest.takeWhile Char.isDigit
    | _ => []
  let after' := if fraction.isEmpty then after else after.drop (fraction.length + 1)
  let (down, size, exponent) := match after' with
    | e :: rest =>
      if e == 'e' || e == 'E' then
        match rest with
        | '-' :: ds => (true, 2, ds.takeWhile Char.isDigit)
        | '+' :: ds => (false, 2, ds.takeWhile Char.isDigit)
        | ds => (false, 1, ds.takeWhile Char.isDigit)
      else (false, 0, [])
    | [] => (false, 0, [])
  let taken := (if negative then 1 else 0) + whole.length +
    (if fraction.isEmpty then 0 else fraction.length + 1) + (if exponent.isEmpty then 0 else size + exponent.length)
  if fraction.isEmpty && exponent.isEmpty then
    if 4300 < whole.length then .error (.digits whole.length)
    else
      let n : Int := digitsValue whole
      .ok (.int (if negative then -n else n), c.skip taken)
  else
    let e : Int := digitsValue exponent
    let x := Binary64.ofDecimal negative (digitsValue (whole ++ fraction)) ((if down then -e else e) - fraction.length)
    .ok (.real x, c.skip taken)

/-- Constants by their spelling. -/
def constants : List (String × Value) :=
  [("null", .null), ("true", .bool true), ("false", .bool false), ("NaN", .real Binary64.notANumber),
    ("Infinity", .real (Binary64.infinity false)), ("-Infinity", .real (Binary64.infinity true))]

/-- A constant or a number. -/
def Cursor.scalar (c : Cursor) : Except Error (Value × Cursor) :=
  match constants.find? fun (word, _) => word.toList.isPrefixOf c.rest with
  | some (word, v) => .ok (v, c.skip word.length)
  | none => c.number

mutual
/-- A value that stands here. -/
def readValue : Nat → Cursor → Except Error (Value × Cursor)
  | 0, c => c.fail .value
  | fuel + 1, c =>
    match c.rest with
    | [] => c.fail .value
    | '"' :: _ => do
      let (s, c) ← c.string
      .ok (.text s, c)
    | '\x7b' :: _ =>
      let c := (c.skip 1).blanks
      match c.rest with
      | '\x7d' :: _ => .ok (.object [], c.skip 1)
      | _ => readFields fuel c []
    | '[' :: _ =>
      let c := (c.skip 1).blanks
      match c.rest with
      | ']' :: _ => .ok (.list [], c.skip 1)
      | _ => readItems fuel c []
    | _ => c.scalar
/-- The fields of an object from a key on. -/
def readFields : Nat → Cursor → Fields → Except Error (Value × Cursor)
  | 0, c, _ => c.fail .name
  | fuel + 1, c, read =>
    match c.rest with
    | '"' :: _ => do
      let (key, c) ← c.string
      let c := c.blanks
      match c.rest with
      | ':' :: _ =>
        let (v, c) ← readValue fuel (c.skip 1).blanks
        let read := Fields.put key v read
        let c := c.blanks
        match c.rest with
        | '\x7d' :: _ => .ok (.object read, c.skip 1)
        | ',' :: _ => readFields fuel (c.skip 1).blanks read
        | _ => c.fail .comma
      | _ => c.fail .colon
    | _ => c.fail .name
/-- The members of a list from a value on. -/
def readItems : Nat → Cursor → List Value → Except Error (Value × Cursor)
  | 0, c, _ => c.fail .value
  | fuel + 1, c, read => do
    let (v, c) ← readValue fuel c
    let c := c.blanks
    match c.rest with
    | ']' :: _ => .ok (.list (v :: read).reverse, c.skip 1)
    | ',' :: _ => readItems fuel (c.skip 1).blanks (v :: read)
    | _ => c.fail .comma
end

/-- The value of a text that holds one value between blanks. -/
def readChars (cs : List Char) : Except Error Value :=
  match cs with
  | '\uFEFF' :: _ => .error (.fault .mark 0)
  | _ => do
    let (v, c) ← readValue (2 * cs.length + 2) (Cursor.blanks ⟨cs, 0⟩)
    let c := c.blanks
    if c.rest.isEmpty then .ok v else c.fail .extra

/-- The value of a text, or the message of what is wrong with it. -/
def read (s : String) : Except String Value := (readChars s.toList).mapError (·.message s.toList)

end Diagnosis.Json
