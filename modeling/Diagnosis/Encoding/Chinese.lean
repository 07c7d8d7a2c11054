import Diagnosis.Encoding.Multibyte
import Diagnosis.Encoding.Shifting
import Diagnosis.Encoding.Table.Big5
import Diagnosis.Encoding.Table.Cp950
import Diagnosis.Encoding.Table.Gb18030
import Diagnosis.Encoding.Table.Gb2312
import Diagnosis.Encoding.Table.Gbk
import Diagnosis.Encoding.Table.Hkscs

/-!
# Chinese encodings

GB 2312 and what came after it, and Big5. GB 18030 gives every character that
has no shorter form four bytes; HZ has bytes below 0x80 only.
-/

namespace Diagnosis.Encoding.Chinese

open Diagnosis.Encoding.Table

/-- The character of two bytes in GB 2312. -/
def gb2312Char? (a b : Nat) : Option Char := grid? gb2312 0xA1 a b

/-- The character of two bytes in GBK. -/
def gbkChar? (a b : Nat) : Option Char :=
  if a < 0x81 then none
  else ((column? b 0xFE).bind (place? gbk (a - 0x81))).or (gb2312Char? a b)

/-- The character of two bytes in one of some runs. -/
def inRuns? (runs : List (Nat × Nat × Nat)) (n : Nat) : Option Char :=
  (runs.find? fun (first, _, size) => first ≤ n && n < first + size).map fun (first, c, _) => charOf (c + (n - first))

/-- The character of two bytes in GB 18030. -/
def gb18030Char? (a b : Nat) : Option Char :=
  (gbkChar? a b).or
    (if a < 0x81 then none else (column? b 0xFE).bind fun column => inRuns? gb18030Two ((a - 0x81) * 190 + column))

/-- The last run that begins at a place or before it. -/
def lastRun (n : Nat) (runs : List (Nat × Nat)) : Nat × Nat :=
  runs.foldl (fun found run => if run.1 ≤ n then run else found) (0, 0x80)

/-- The character of a place in the lower part of the four bytes of GB 18030. -/
def lower? (n : Nat) : Option Char :=
  if n < gb18030FourSize then
    let (first, c) := lastRun n gb18030Four
    some (charOf (c + (n - first)))
  else none

/-- The character of a place in the upper part of the four bytes of GB 18030. -/
def upper? (n : Nat) : Option Char := if n < 0x100000 then some (charOf (0x10000 + n)) else none

/-- The character of four bytes in GB 18030. -/
def fourBytes? (a b c d : Nat) : Option Char :=
  if a < 0x81 ∨ 0xFE < a ∨ c < 0x81 ∨ 0xFE < c ∨ d < 0x30 ∨ 0x39 < d then none else
  let n := ((a - 0x81) * 10 + (b - 0x30)) * 1260 + (c - 0x81) * 10 + (d - 0x30)
  if a - 0x81 < 4 then lower? n
  else if 15 ≤ a - 0x81 then upper? (n - 15 * 12600)
  else none

/-- One character of GB 18030. -/
def gb18030Step : Step :=
  twoByteStep fun a b rest =>
    if 0x30 ≤ b ∧ b ≤ 0x39 then
      match rest with
      | c :: d :: _ =>
        match fourBytes? a b c d with
        | some c => .ok ([c], 4)
        | none => .error (illegal 1)
      | _ => .error (incomplete (a :: b :: rest))
    else pair (gb18030Char? a b)

/-- One character of GBK. -/
def gbkStep : Step := twoByteStep fun a b _ => pair (gbkChar? a b)

/-- One character of GB 2312. -/
def gb2312Step : Step := twoByteStep fun a b _ => pair (gb2312Char? a b)

/-- The place of a second byte of Big5. -/
def big5Column? (b : Nat) : Option Nat :=
  if 0x40 ≤ b ∧ b ≤ 0x7E then some (b - 0x40)
  else if 0xA1 ≤ b ∧ b ≤ 0xFE then some (b - 0xA1 + 63)
  else none

/-- The character of two bytes in Big5. -/
def big5Char? (a b : Nat) : Option Char :=
  if a < 0xA1 then none else (big5Column? b).bind (place? big5 (a - 0xA1))

/-- One character of Big5. -/
def big5Step : Step := twoByteStep fun a b _ => pair (big5Char? a b)

/-- One character of the variant of Big5. -/
def cp950Step : Step :=
  twoByteStep fun a b _ =>
    pair (((cp950.lookup a).bind fun row => (big5Column? b).bind (cell? row)).or (big5Char? a b))

/-- The characters of two bytes in Big5 with its supplement, which has a few rows for itself. -/
def hkscsChars? (a b : Nat) : Option (List Char) :=
  let supplement := (hkscs.lookup a).bind fun row => (big5Column? b).bind (cell? row)
  let own := 0xC6A1 ≤ a * 256 + b ∧ a * 256 + b ≤ 0xC8FE
  (((if own then none else big5Char? a b).or supplement).map fun c => [c]).or
    ((hkscsPairs.lookup (a, b)).map String.toList)

/-- One character of Big5 with its supplement, or two at once. -/
def hkscsStep : Step := twoByteStep fun a b _ => several 2 (hkscsChars? a b)

/-- One step of HZ, in which a tilde and a brace go to Chinese (`true`) and back. -/
def hzStep : ShiftStep Bool
  | chinese, [] => .ok ([], chinese, 1)
  | chinese, 0x7E :: rest =>
    match rest, chinese with
    | [], _ => .error (incomplete [0x7E])
    | 0x7E :: _, false => .ok (['~'], false, 2)
    | 0x7B :: _, false => .ok ([], true, 2)
    | 0x0A :: _, false => .ok ([], false, 2)
    | 0x7D :: _, true => .ok ([], false, 2)
    | _ :: _, _ => .error (illegal 1)
  | chinese, a :: rest =>
    if 0x80 ≤ a then .error (illegal 1)
    else if chinese then
      match rest with
      | [] => .error (incomplete [a])
      | b :: _ =>
        match grid? gb2312 0x21 a b with
        | some c => .ok ([c], true, 2)
        | none => .error (illegal 1)
    else .ok ([charOf a], false, 1)

end Diagnosis.Encoding.Chinese
