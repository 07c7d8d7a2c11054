import Diagnosis.Encoding.Multibyte
import Diagnosis.Encoding.Table.Ksx1001

/-!
# Korean encodings

The Korean standard in EUC, its extension to all syllables, and Johab, which
spells syllables by their letters.
-/

namespace Diagnosis.Encoding.Korean

open Diagnosis.Encoding.Table

/-- The syllable of an initial, a vowel and a final, all counted from zero. -/
def syllable (initial vowel final : Nat) : Char := charOf (0xAC00 + initial * 588 + vowel * 28 + final)

/-- What an initial and a final count among the letters of the standard. -/
def initials : List (Option Nat) :=
  [some 0, some 1, none, some 2, none, none, some 3, some 4, some 5, none, none, none, none, none, none, none,
    some 6, some 7, some 8, none, some 9, some 10, some 11, some 12, some 13, some 14, some 15, some 16, some 17, some 18]
def finals : List (Option Nat) :=
  [some 1, some 2, some 3, some 4, some 5, some 6, some 7, none, some 8, some 9, some 10, some 11, some 12, some 13,
    some 14, some 15, some 16, some 17, none, some 18, some 19, some 20, some 21, some 22, none, some 23, some 24,
    some 25, some 26, some 27]

/-- The count of a letter of the standard. -/
def letter? (counts : List (Option Nat)) (b : Nat) : Option Nat := if b < 0xA1 then none else (counts[b - 0xA1]?).join

/-- The syllable that three letters make, each after a filler, the last of which may be a filler
itself. -/
def composed? (initial vowel final : Nat) : Option Char := do
  let i ← letter? initials initial
  let v ← if 0xBF ≤ vowel ∧ vowel ≤ 0xD3 then some (vowel - 0xBF) else none
  let f ← if final = 0xD4 then some 0 else letter? finals final
  return syllable i v f

/-- The character of two bytes of the standard. -/
def standard? (a b : Nat) : Option Char := grid? ksx1001 0xA1 a b

/-- One character of the standard in EUC. -/
def eucStep : Step :=
  twoByteStep fun a b rest =>
    if a = 0xA4 ∧ b = 0xD4 then
      match rest with
      | 0xA4 :: i :: 0xA4 :: v :: 0xA4 :: f :: _ =>
        match composed? i v f with
        | some c => .ok ([c], 8)
        | none => .error (illegal 1)
      | _ => if rest.length < 6 then .error (incomplete (a :: b :: rest)) else .error (illegal 1)
    else pair (standard? a b)

/-- The syllables of the standard, in order. -/
def listed : List Nat := (List.range 25).flatMap fun row => (((ksx1001[row + 15]?).getD "").toList).map Char.toNat

/-- How many of some sorted numbers lie at or before the place of the `n`th number that is none of
them, counting from the first syllable. -/
def passed (n : Nat) : Nat → List Nat → Nat
  | k, [] => k
  | k, h :: rest => if h ≤ 0xAC00 + n + k then passed n (k + 1) rest else k

/-- The `n`th of the syllables that the standard leaves out. -/
def unlisted (n : Nat) : Char := charOf (0xAC00 + n + passed n 0 listed)

/-- The place of a second byte of the extension. -/
def extensionColumn? (b : Nat) : Option Nat :=
  if 0x41 ≤ b ∧ b ≤ 0x5A then some (b - 0x41)
  else if 0x61 ≤ b ∧ b ≤ 0x7A then some (b - 0x61 + 26)
  else if 0x81 ≤ b ∧ b ≤ 0xFE then some (b - 0x81 + 52)
  else none

/-- The character of two bytes of the extension: the syllables that are left out, in order, in the
places that are free. -/
def extension? (a b : Nat) : Option Char :=
  if a < 0x81 then none else
  (extensionColumn? b).bind fun column =>
    if a ≤ 0xA0 then some (unlisted ((a - 0x81) * 178 + column))
    else
      let n := 32 * 178 + (a - 0xA1) * 84 + column
      if column < 84 ∧ n < 8822 then some (unlisted n) else none

/-- One character of the extension. -/
def cp949Step : Step := twoByteStep fun a b _ => pair ((standard? a b).or (extension? a b))

/-- What the five bits of a letter of Johab mean. -/
inductive Letter where
  | none
  | filler
  /-- What the letter counts, and its number when it stands alone. -/
  | letter (count alone : Nat)

/-- The letters of a list that begin at a number of bits, and the filler before them. -/
def letterOf (filler : Nat) (letters : List (Nat × Nat × Nat)) (bits : Nat) : Letter :=
  if bits = filler then .filler
  else match letters.find? (·.1 = bits) with
    | some (_, count, alone) => .letter count alone
    | Option.none => .none

/-- The bits of the initials, what they count, and their numbers when they stand alone. -/
def johabInitials : List (Nat × Nat × Nat) :=
  [(2, 0, 0x3131), (3, 1, 0x3132), (4, 2, 0x3134), (5, 3, 0x3137), (6, 4, 0x3138), (7, 5, 0x3139), (8, 6, 0x3141),
    (9, 7, 0x3142), (10, 8, 0x3143), (11, 9, 0x3145), (12, 10, 0x3146), (13, 11, 0x3147), (14, 12, 0x3148),
    (15, 13, 0x3149), (16, 14, 0x314A), (17, 15, 0x314B), (18, 16, 0x314C), (19, 17, 0x314D), (20, 18, 0x314E)]

/-- The bits of the vowels. -/
def johabVowels : List (Nat × Nat × Nat) :=
  ([3, 4, 5, 6, 7, 10, 11, 12, 13, 14, 15, 18, 19, 20, 21, 22, 23, 26, 27, 28, 29].zipIdx).map fun (bits, i) =>
    (bits, i, 0x314F + i)

/-- The bits of the finals. -/
def johabFinals : List (Nat × Nat × Nat) :=
  [(2, 1, 0x3131), (3, 2, 0x3132), (4, 3, 0x3133), (5, 4, 0x3134), (6, 5, 0x3135), (7, 6, 0x3136), (8, 7, 0x3137),
    (9, 8, 0x3139), (10, 9, 0x313A), (11, 10, 0x313B), (12, 11, 0x313C), (13, 12, 0x313D), (14, 13, 0x313E),
    (15, 14, 0x313F), (16, 15, 0x3140), (17, 16, 0x3141), (19, 17, 0x3142), (20, 18, 0x3144), (21, 19, 0x3145),
    (22, 20, 0x3146), (23, 21, 0x3147), (24, 22, 0x3148), (25, 23, 0x314A), (26, 24, 0x314B), (27, 25, 0x314C),
    (28, 26, 0x314D), (29, 27, 0x314E)]

/-- The character that letters of Johab spell. -/
def spelled? : Letter → Letter → Letter → Option Char
  | .filler, .filler, .filler => some '\u3000'
  | .filler, .filler, .letter _ alone => some (charOf alone)
  | .filler, .letter _ alone, .filler => some (charOf alone)
  | .letter _ alone, .filler, .filler => some (charOf alone)
  | .letter i _, .letter v _, .filler => some (syllable i v 0)
  | .letter i _, .letter v _, .letter f _ => some (syllable i v f)
  | _, _, _ => Option.none

/-- The character of the standard that is no syllable, in Johab. -/
def johabOther? (a b : Nat) : Option Char :=
  if a = 0xDF ∨ 0xF9 < a ∨ b < 0x31 ∨ (0x80 ≤ b ∧ b < 0x91) ∨ b % 0x80 = 0x7F ∨ (a = 0xDA ∧ 0xA1 ≤ b ∧ b ≤ 0xD3) then
    Option.none
  else
    let column := if b < 0x91 then b - 0x31 else b - 0x43
    let row : Int := if a < 0xE0 then 2 * ((a : Int) - 0xD9) else 2 * (a : Int) - 0x197
    let row := if column < 94 then row else row + 1
    if row < 0 then Option.none else place? ksx1001 row.toNat (if column < 94 then column else column - 94)

/-- One character of Johab. -/
def johabStep : Step :=
  twoByteStep fun a b _ =>
    if a < 0xD8 then
      pair (spelled? (letterOf 1 johabInitials (a / 4 % 32)) (letterOf 2 johabVowels ((a * 8 + b / 32) % 32))
        (letterOf 1 johabFinals (b % 32)))
    else pair (johabOther? a b)

end Diagnosis.Encoding.Korean
