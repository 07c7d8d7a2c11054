import Diagnosis.Encoding.Japanese
import Diagnosis.Encoding.Shifting
import Diagnosis.Encoding.Table.Gb2312
import Diagnosis.Encoding.Table.Ksx1001

/-!
# Encodings that change character sets

Bytes below 0x80 stand for characters of the set in use. Escape sequences put
sets in the places G0, G1 and G2: G0 is in use, or G1 after a shift, and G2 for
single characters. Each variant knows some sets only.
-/

namespace Diagnosis.Encoding.Iso2022

open Diagnosis.Encoding.Japanese Diagnosis.Encoding.Table

/-! ## Character sets -/

/-- A set of characters. -/
inductive Charset where
  | ascii
  | roman
  | katakana
  | latin
  | greek
  | jis0208
  | jis0212
  | jis0213First (edition : Edition)
  | jis0213Second
  | gb2312
  | ksx1001
  deriving DecidableEq, Repr

/-- Whether the characters of a set take two bytes. -/
def Charset.isDouble : Charset → Bool
  | .ascii | .roman | .katakana | .latin | .greek => false
  | .jis0208 | .jis0212 | .jis0213First _ | .jis0213Second | .gb2312 | .ksx1001 => true

/-- The character of a byte in a set of G0 or G1. -/
def Charset.single? (set : Charset) (a : Nat) : Option Char :=
  match set with
  | .ascii => some (charOf a)
  | .roman => some (Japanese.roman a)
  | .katakana => if 0x21 ≤ a ∧ a ≤ 0x5F then some (halfWidth (a + 0x80)) else none
  | _ => none

/-- The characters of two bytes in a set of G0 or G1. -/
def Charset.double? (set : Charset) (a b : Nat) : Option (List Char) :=
  match set with
  | .jis0208 => (grid? Table.jis0208 0x21 a b).map fun c => [c]
  | .jis0212 => (grid? Table.jis0212 0x21 a b).map fun c => [c]
  | .jis0213First edition => planeOne? edition a b
  | .jis0213Second => (planeTwo? .second a b).map fun c => [c]
  | .gb2312 => (grid? Table.gb2312 0x21 a b).map fun c => [c]
  | .ksx1001 => (grid? Table.ksx1001 0x21 a b).map fun c => [c]
  | _ => none

/-- The character of a byte from 0xA0 on in the Greek set. -/
def greek? (b : Nat) : Option Char :=
  if b = 0xA1 then some '\u2018'
  else if b = 0xA2 then some '\u2019'
  else if b = 0xAF then some '\u2015'
  else if [0xA0, 0xA3, 0xA6, 0xA7, 0xA8, 0xA9, 0xAB, 0xAC, 0xAD, 0xB0, 0xB1, 0xB2, 0xB3, 0xB7, 0xBB, 0xBD].contains b then
    some (charOf b)
  else if 0xB4 ≤ b ∧ b ≤ 0xFE ∧ b ≠ 0xD2 then some (charOf (0x2D0 + b))
  else none

/-- The character of a byte in a set of G2. -/
def Charset.third? (set : Charset) (b : Nat) : Option Char :=
  match set with
  | .ascii => if b < 0x80 then some (charOf b) else none
  | .latin => if b < 0x80 then some (charOf (b + 0x80)) else none
  | .greek => if b < 0x20 then some (charOf (b + 0x80)) else if b < 0x80 then greek? (b + 0x80) else some (charOf (b - 0x80))
  | _ => none

/-! ## Variants and their states -/

/-- What an encoding of this kind knows. -/
structure Variant where
  /-- The sets, by the last byte of their escape sequences. -/
  sets : List (Nat × Charset)
  /-- Whether there are shifts to G1 and back. -/
  shifts : Bool
  /-- Whether there is a place G2. -/
  third : Bool
  /-- Whether an escape sequence may have a prefix that tells a revision. -/
  prefixed : Bool

/-- What the places hold, and which of them is in use. -/
structure Shift where
  first : Charset
  second : Charset
  third : Charset
  shifted : Bool
  /-- Whether the bytes of a foreign escape sequence are passing. -/
  passing : Bool
  deriving DecidableEq, Repr

/-- All places hold ASCII at first. -/
def Shift.start : Shift := ⟨.ascii, .ascii, .ascii, false, false⟩

/-- The set that an escape sequence ending in a byte tells. -/
def Variant.set? (variant : Variant) (double : Bool) (last : Nat) : Option Charset :=
  if last = 0x42 ∧ double = false then some .ascii
  else (variant.sets.find? fun (b, set) => b = last && set.isDouble = double).map Prod.snd

/-! ## Escape sequences -/

/-- Whether a byte ends an escape sequence. -/
def isLast (b : Nat) : Bool := 0x40 ≤ b && b ≤ 0x5A

/-- The length of the escape sequence at the front of some bytes, looked for from an index on. -/
def escapeLength (variant : Variant) (bytes : List Nat) : Nat → Nat → Except Fault Nat
  | 0, _ => .error (illegal 1)
  | fuel + 1, i =>
    if 16 ≤ i then .error (illegal 1) else
    match bytes.drop i with
    | [] => .error (incomplete bytes)
    | b :: rest =>
      if isLast b then .ok (i + 1)
      else if variant.prefixed && b = 0x26 && rest.head? = some 0x40 then escapeLength variant bytes fuel (i + 3)
      else escapeLength variant bytes fuel (i + 1)

/-- The state after an escape sequence, given without its first byte. -/
def Variant.designate? (variant : Variant) (state : Shift) (sequence : List Nat) : Option Shift :=
  match sequence with
  | [0x24, last] => (variant.set? true last).map fun set => { state with first := set }
  | [0x28, last] => (variant.set? false last).map fun set => { state with first := set }
  | [0x29, last] => (variant.set? false last).map fun set => { state with second := set }
  | [0x2E, last] =>
    if variant.third then (variant.set? false last).map fun set => { state with third := set } else none
  | [0x24, 0x28, last] => (variant.set? true last).map fun set => { state with first := set }
  | [0x24, 0x29, last] => (variant.set? true last).map fun set => { state with second := set }
  | [_, _, 0x1B, 0x24, 0x42] =>
    if variant.prefixed then (variant.set? true 0x42).map fun set => { state with first := set } else none
  | _ => none

/-- One step at an escape byte. -/
def escapeStep (variant : Variant) (state : Shift) (bytes : List Nat) : Except Fault (List Char × Shift × Nat) :=
  match bytes with
  | _ :: b :: rest =>
    if [0x24, 0x26, 0x28, 0x29, 0x2E].contains b then do
      let size ← escapeLength variant bytes 16 1
      match variant.designate? state ((bytes.take size).drop 1) with
      | some next => return ([], next, size)
      | none => throw (illegal size)
    else if variant.third && b = 0x4E then
      match rest with
      | [] => .error (incomplete bytes)
      | c :: _ =>
        match state.third.third? c with
        | some c => .ok ([c], state, 3)
        | none => .error (illegal 3)
    else .ok (['\x1B'], { state with passing := true }, 1)
  | _ => .error (incomplete bytes)

/-! ## Decoding -/

/-- One step at a byte of the set in use. -/
def setStep (state : Shift) (a : Nat) (rest : List Nat) : Except Fault (List Char × Shift × Nat) :=
  let set := if state.shifted then state.second else state.first
  if set.isDouble then
    match rest with
    | [] => .error (incomplete [a])
    | b :: _ =>
      match set.double? a b with
      | some cs => .ok (cs, state, 2)
      | none => .error (illegal 2)
  else
    match set.single? a with
    | some c => .ok ([c], state, 1)
    | none => .error (illegal 1)

/-- One step. -/
def step (variant : Variant) : ShiftStep Shift
  | state, [] => .ok ([], state, 1)
  | state, a :: rest =>
    if state.passing then .ok ([charOf a], { state with passing := !isLast a }, 1)
    else if a = 0x1B then escapeStep variant state (a :: rest)
    else if variant.shifts && (a = 0x0E || a = 0x0F) then .ok ([], { state with shifted := a = 0x0E }, 1)
    else if a = 0x0A then .ok (['\n'], { state with shifted := false }, 1)
    else if a < 0x20 then .ok ([charOf a], state, 1)
    else if 0x80 ≤ a then .error (illegal 1)
    else setStep state a rest

/-- The Japanese variant that others add to. -/
def japanese : Variant :=
  ⟨[(0x42, .jis0208), (0x40, .jis0208), (0x4A, .roman)], false, false, true⟩

/-- The variants, by name. -/
def variants : List (String × Variant) := [
  ("iso2022_jp", japanese),
  ("iso2022_jp_1", { japanese with sets := (0x44, .jis0212) :: japanese.sets }),
  ("iso2022_jp_2", { japanese with
    sets := [(0x44, .jis0212), (0x43, .ksx1001), (0x41, .gb2312), (0x41, .latin), (0x46, .greek)] ++ japanese.sets
    third := true }),
  ("iso2022_jp_2004", { japanese with
    sets := [(0x42, .jis0208), (0x51, .jis0213First .second), (0x50, .jis0213Second)] }),
  ("iso2022_jp_3", { japanese with
    sets := [(0x42, .jis0208), (0x4F, .jis0213First .first), (0x50, .jis0213Second)] }),
  ("iso2022_jp_ext", { japanese with sets := [(0x44, .jis0212), (0x49, .katakana)] ++ japanese.sets }),
  ("iso2022_kr", ⟨[(0x43, .ksx1001)], true, false, false⟩)]

/-- Decodes bytes in a variant of a name. -/
def decode (name : String) (variant : Variant) : List Nat → Except DecodeError (List Char) :=
  decodeShifting name (step variant) Shift.start

end Diagnosis.Encoding.Iso2022
