import Diagnosis.Text.Digits
import Diagnosis.Text.Lines

/-!
# Ranges in a document

Lines are numbered from one where a compiler names them and from zero where an
editor does. A diagnostic covers the whole of its line.
-/

namespace Diagnosis

open Diagnosis.Text (decimal decimalInt)

/-- A place between characters, line and character from zero. -/
structure Position where
  line : Int
  character : Int
  deriving DecidableEq, Repr, Inhabited

/-- A stretch of a document. -/
structure Range where
  start : Position
  stop : Position
  deriving DecidableEq, Repr, Inhabited

/-- A line that a document does not have. -/
structure LineOutOfRange where
  line : Int
  count : Nat
  deriving DecidableEq, Repr

/-- The message about a line that a document does not have. -/
def LineOutOfRange.message (e : LineOutOfRange) : String :=
  "line " ++ decimalInt e.line ++ " is outside the document (1.." ++ decimal e.count ++ ")"

/-- The lines of a document. -/
structure LineTable where
  lines : List (List Char)
  deriving Repr

namespace LineTable

/-- The lines of a text. -/
def ofText (text : String) : LineTable := ⟨Text.lines text.toList⟩

/-- The number of lines. -/
def size (t : LineTable) : Nat := t.lines.length

/-- The number of characters of a line, from zero. -/
def lengthAt (t : LineTable) (index : Nat) : Nat := (t.lines[index]?.getD []).length

/-- The range of a line numbered from one. -/
def range (t : LineTable) (line : Int) : Except LineOutOfRange Range :=
  if 1 ≤ line ∧ line ≤ t.size then
    .ok ⟨⟨line - 1, 0⟩, ⟨line - 1, t.lengthAt (line - 1).toNat⟩⟩
  else .error ⟨line, t.size⟩

end LineTable

end Diagnosis
