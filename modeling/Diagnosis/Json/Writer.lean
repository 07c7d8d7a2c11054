import Diagnosis.Json.Value
import Diagnosis.Text.Quoted

/-!
# Writing JSON values

ASCII text of a JSON value, on one line or indented by two blanks a level, and
the quoted form in which messages show a value.
-/

namespace Diagnosis.Json

open Diagnosis.Text (hexLast decimalInt quoted)

/-- One 16-bit unit as an escape. -/
def escapeUnit (n : Nat) : List Char := '\\' :: 'u' :: hexLast 4 n

/-- One character of a string: printable ASCII but the quotation mark and the backslash stands
for itself, a character beyond 16 bits becomes two units. -/
def escapeChar (c : Char) : List Char :=
  if c == '"' then ['\\', '"']
  else if c == '\\' then ['\\', '\\']
  else if c == '\n' then ['\\', 'n']
  else if c == '\r' then ['\\', 'r']
  else if c == '\t' then ['\\', 't']
  else if c == '\x0c' then ['\\', 'f']
  else if c == '\x08' then ['\\', 'b']
  else if 32 ≤ c.toNat && c.toNat ≤ 126 then [c]
  else if c.toNat < 0x10000 then escapeUnit c.toNat
  else
    let n := c.toNat - 0x10000
    escapeUnit (0xD800 + n / 0x400) ++ escapeUnit (0xDC00 + n % 0x400)

/-- A string in quotation marks. -/
def writeText (s : String) : List Char := '"' :: s.toList.flatMap escapeChar ++ ['"']

/-- The text of a truth value. -/
def writeBool (b : Bool) : List Char := if b then "true".toList else "false".toList

/-- Texts with a separator between each two. -/
def joinWith (separator : List Char) : List (List Char) → List Char
  | [] => []
  | [t] => t
  | t :: rest => t ++ separator ++ joinWith separator rest

/-- How lists and objects are laid out. -/
inductive Layout where
  /-- All on one line, a blank after each comma. -/
  | line
  /-- Each member on a line of its own, two blanks deeper than what holds it. -/
  | indented

/-- What stands between the brackets of a list or object, given its members. -/
def Layout.enclose (layout : Layout) (depth : Nat) (left right : Char) (members : List (List Char)) :
    List Char :=
  if members.isEmpty then [left, right] else
  match layout with
  | .line => left :: joinWith [',', ' '] members ++ [right]
  | .indented =>
    let margin := '\n' :: List.replicate (2 * (depth + 1)) ' '
    left :: margin ++ joinWith (',' :: margin) members ++ '\n' :: List.replicate (2 * depth) ' ' ++ [right]

mutual
/-- The text of a value at a depth. -/
def writeValue (layout : Layout) (depth : Nat) : Value → List Char
  | .null => "null".toList
  | .bool b => writeBool b
  | .int n => (decimalInt n).toList
  | .real x => (x.text "Infinity" "NaN").toList
  | .text s => writeText s
  | .list items => layout.enclose depth '[' ']' (writeItems layout (depth + 1) items)
  | .object fields => layout.enclose depth '\x7b' '\x7d' (writeFields layout (depth + 1) fields)
termination_by structural v => v
/-- The texts of the members of a list. -/
def writeItems (layout : Layout) (depth : Nat) : List Value → List (List Char)
  | [] => []
  | v :: rest => writeValue layout depth v :: writeItems layout depth rest
termination_by structural vs => vs
/-- The texts of the fields of an object. -/
def writeFields (layout : Layout) (depth : Nat) : List (String × Value) → List (List Char)
  | [] => []
  | e :: rest => writeField layout depth e :: writeFields layout depth rest
termination_by structural es => es
/-- The text of a field. -/
def writeField (layout : Layout) (depth : Nat) : String × Value → List Char
  | (key, v) => writeText key ++ ':' :: ' ' :: writeValue layout depth v
termination_by structural e => e
end

/-- The text of a value on one line. -/
def render (v : Value) : String := String.ofList (writeValue .line 0 v)

/-- The text of a value over several lines. -/
def renderIndented (v : Value) : String := String.ofList (writeValue .indented 0 v)

mutual
/-- A value as messages show it. -/
def inspectValue : Value → List Char
  | .null => "None".toList
  | .bool b => if b then "True".toList else "False".toList
  | .int n => (decimalInt n).toList
  | .real x => (x.text "inf" "nan").toList
  | .text s => quoted s.toList
  | .list items => Layout.line.enclose 0 '[' ']' (inspectItems items)
  | .object fields => Layout.line.enclose 0 '\x7b' '\x7d' (inspectFields fields)
termination_by structural v => v
/-- The members of a list as messages show them. -/
def inspectItems : List Value → List (List Char)
  | [] => []
  | v :: rest => inspectValue v :: inspectItems rest
termination_by structural vs => vs
/-- The fields of an object as messages show them. -/
def inspectFields : List (String × Value) → List (List Char)
  | [] => []
  | e :: rest => inspectField e :: inspectFields rest
termination_by structural es => es
/-- A field as messages show it. -/
def inspectField : String × Value → List Char
  | (key, v) => quoted key.toList ++ ':' :: ' ' :: inspectValue v
termination_by structural e => e
end

/-- A value as messages show it. -/
def inspect (v : Value) : String := String.ofList (inspectValue v)

end Diagnosis.Json
