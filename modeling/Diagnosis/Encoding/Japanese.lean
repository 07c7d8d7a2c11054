import Diagnosis.Encoding.Multibyte
import Diagnosis.Encoding.Table.Cp932
import Diagnosis.Encoding.Table.Jis0208
import Diagnosis.Encoding.Table.Jis0212
import Diagnosis.Encoding.Table.Jis0213

/-!
# Japanese encodings

The places of the Japanese standard in the bytes of Shift JIS, of its variant
with additions, and of EUC, and those of the later standard in two planes.
-/

namespace Diagnosis.Encoding.Japanese

open Diagnosis.Encoding.Table

/-- A half-width character of a byte from 0xA1 to 0xDF. -/
def halfWidth (b : Nat) : Char := charOf (0xFEC0 + b)

/-- Whether a byte begins two bytes of Shift JIS that stand for a place of the standard. -/
def isLead (a : Nat) : Bool := (0x81 ≤ a && a ≤ 0x9F) || (0xE0 ≤ a && a ≤ 0xEA)

/-- The row and column that two bytes of Shift JIS stand for. -/
def shifted? (a b : Nat) : Option (Nat × Nat) :=
  (column? b 0xFC).map fun column =>
    let half := 2 * (if a < 0xE0 then a - 0x81 else a - 0xC1)
    if column < 94 then (half, column) else (half + 1, column - 94)

/-- The character of two bytes of Shift JIS. -/
def shiftedChar? (a b : Nat) : Option Char := (shifted? a b).bind fun (row, column) => place? jis0208 row column

/-- One character of Shift JIS. -/
def shiftJisStep : Step
  | [] => .ok ([], 1)
  | a :: bs =>
    if a < 0x80 then .ok ([charOf a], 1)
    else if 0xA1 ≤ a ∧ a ≤ 0xDF then .ok ([halfWidth a], 1)
    else if isLead a then
      match bs with
      | [] => .error (incomplete [a])
      | b :: _ => pair (shiftedChar? a b)
    else .error (illegal 1)

/-- A character that the variant of Shift JIS has besides those of the standard. -/
def addition? (a b : Nat) : Option Char :=
  if b < 0x40 then none else (cp932.lookup a).bind (cell? · (b - 0x40))

/-- A character for private use in the variant of Shift JIS. -/
def private? (a b : Nat) : Option Char :=
  if 0xF0 ≤ a ∧ a ≤ 0xF9 then (column? b 0xFC).map fun column => charOf (0xE000 + 188 * (a - 0xF0) + column)
  else none

/-- One character of the variant of Shift JIS. -/
def cp932Step : Step
  | [] => .ok ([], 1)
  | a :: bs =>
    if a ≤ 0x80 then .ok ([charOf a], 1)
    else if a = 0xA0 then .ok (['\uF8F0'], 1)
    else if 0xA1 ≤ a ∧ a ≤ 0xDF then .ok ([halfWidth a], 1)
    else if 0xFD ≤ a then .ok ([charOf (0xF8F1 - 0xFD + a)], 1)
    else
      match bs with
      | [] => .error (incomplete [a])
      | b :: _ =>
        let standard := if isLead a then shiftedChar? a b else none
        pair (((addition? a b).or standard).or (private? a b))

/-- One character of EUC. -/
def eucStep : Step :=
  twoByteStep fun a b rest =>
    if a = 0x8E then
      if 0xA1 ≤ b ∧ b ≤ 0xDF then .ok ([halfWidth b], 2) else .error (illegal 1)
    else if a = 0x8F then
      match rest with
      | [] => .error (incomplete [a, b])
      | c :: _ =>
        match grid? jis0212 0xA1 b c with
        | some c => .ok ([c], 3)
        | none => .error (illegal 1)
    else pair (grid? jis0208 0xA1 a b)

/-! ## The later standard -/

/-- The editions of the later standard. -/
inductive Edition where
  | first
  | second
  deriving DecidableEq, Repr

/-- Whether a place in the first plane is not yet in an edition. -/
def Edition.lacks (edition : Edition) (a b : Nat) : Bool := edition == .first && jis0213Newer.contains (a, b)

/-- The characters of a place in the first plane, by two bytes from 0x21 on. -/
def planeOne? (edition : Edition) (a b : Nat) : Option (List Char) :=
  if edition.lacks a b then none
  else (((grid? jis0208 0x21 a b).or (grid? jis0213First 0x21 a b)).map fun c => [c]).or
    ((jis0213Pairs.lookup (a, b)).map String.toList)

/-- The characters of two bytes that stand for a place in the first plane. -/
def planeOne (edition : Edition) (a b : Nat) : Except Fault (List Char × Nat) :=
  if edition.lacks a b then .error (illegal 2) else several 2 (planeOne? edition a b)

/-- The character of a place in the second plane, by two bytes from 0x21 on. -/
def planeTwo? (edition : Edition) (a b : Nat) : Option Char :=
  if edition = .first ∧ a = 0x7D ∧ b = 0x3B then some '\u9B1D' else grid? jis0213Second 0x21 a b

/-- One character of EUC with the later standard. -/
def laterEucStep (edition : Edition) : Step :=
  twoByteStep fun a b rest =>
    if a = 0x8E then
      if 0xA1 ≤ b ∧ b ≤ 0xDF then .ok ([halfWidth b], 2) else .error (illegal 1)
    else if a = 0x8F then
      match rest with
      | [] => .error (incomplete [a, b])
      | c :: _ =>
        several 3 (((planeTwo? edition (b - 0x80) (c - 0x80)).or (grid? jis0212 0xA1 b c)).map fun c => [c])
    else if a = 0xA2 ∧ b = 0xB2 then .ok (['\uFF5E'], 2)
    else planeOne edition (a - 0x80) (b - 0x80)

/-- A character of the Roman letters of Japan. -/
def roman (b : Nat) : Char := if b = 0x5C then '\u00A5' else if b = 0x7E then '\u203E' else charOf b

/-- The row of the second plane that Shift JIS has as its half row of a number. -/
def secondRow (half : Nat) : Nat :=
  ([0x21, 0x28, 0x23, 0x24, 0x25, 0x2C, 0x2D, 0x2E, 0x2F][half]?).getD (0x6E + (half - 9))

/-- The characters of two bytes of Shift JIS with the later standard. -/
def laterShifted (edition : Edition) (a b : Nat) : Except Fault (List Char × Nat) :=
  match column? b 0xFC with
  | none => .error (illegal 1)
  | some column =>
    let lower := if column < 94 then 0 else 1
    let place := 0x21 + column % 94
    if a < 0xF0 then
      let row := 0x21 + 2 * (if a < 0xE0 then a - 0x81 else a - 0xC1) + lower
      if row = 0x21 ∧ place = 0x40 then .ok (['\\'], 2) else planeOne edition row place
    else pair (planeTwo? edition (secondRow (2 * (a - 0xF0) + lower)) place)

/-- One character of Shift JIS with the later standard. -/
def laterShiftJisStep (edition : Edition) : Step
  | [] => .ok ([], 1)
  | a :: bs =>
    if a < 0x80 then .ok ([roman a], 1)
    else if 0xA1 ≤ a ∧ a ≤ 0xDF then .ok ([halfWidth a], 1)
    else if a = 0x80 ∨ a = 0xA0 ∨ 0xFD ≤ a then .error (illegal 1)
    else
      match bs with
      | [] => .error (incomplete [a])
      | b :: _ => laterShifted edition a b

end Diagnosis.Encoding.Japanese
