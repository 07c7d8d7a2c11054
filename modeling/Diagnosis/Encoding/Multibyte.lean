import Diagnosis.Encoding.Basic

/-!
# Encodings of several bytes a character

What encodings have in common that take one byte for ASCII and more for other
characters: places in tables of rows, and the two faults of bytes that mean
nothing and of bytes that are too few.
-/

namespace Diagnosis.Encoding

/-- Bytes that mean nothing, of which so many are concerned. -/
def illegal (size : Nat) : Fault := ⟨size, "illegal multibyte sequence"⟩

/-- Bytes that end before their character does. -/
def incomplete (bytes : List Nat) : Fault := ⟨bytes.length, "incomplete multibyte sequence"⟩

/-- A place in a row, unless it is empty. -/
def cell? (row : String) (column : Nat) : Option Char := (row.toList[column]?).filter (· != '\uFFFD')

/-- A place in a table, unless it is empty. -/
def place? (rows : Array String) (row column : Nat) : Option Char := (rows[row]?).bind (cell? · column)

/-- A place that two bytes from 0xA1 to 0xFE stand for, or from 0x21 to 0x7E with the top bit
taken off. -/
def grid? (rows : Array String) (base a b : Nat) : Option Char :=
  if base ≤ a ∧ base ≤ b then place? rows (a - base) (b - base) else none

/-- A character of two bytes, if there is one. -/
def pair (c : Option Char) : Except Fault (List Char × Nat) :=
  match c with
  | some c => .ok ([c], 2)
  | none => .error (illegal 1)

/-- The characters that so many bytes stand for, if they stand for any. -/
def several (size : Nat) (cs : Option (List Char)) : Except Fault (List Char × Nat) :=
  match cs with
  | some cs => .ok (cs, size)
  | none => .error (illegal 1)

/-- A step that takes a byte below 0x80 for itself and needs another byte after any other. -/
def twoByteStep (two : Nat → Nat → List Nat → Except Fault (List Char × Nat)) : Step
  | [] => .ok ([], 1)
  | a :: bs =>
    if a < 0x80 then .ok ([charOf a], 1) else
    match bs with
    | [] => .error (incomplete [a])
    | b :: rest => two a b rest

/-- The place of a second byte that leaves out 0x7F, counted from 0x40. -/
def column? (b last : Nat) : Option Nat :=
  if b < 0x40 ∨ b = 0x7F ∨ last < b then none else some (if b < 0x7F then b - 0x40 else b - 0x41)

end Diagnosis.Encoding
