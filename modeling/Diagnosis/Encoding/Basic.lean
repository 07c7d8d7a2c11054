import Diagnosis.Text.Digits

/-!
# Decoding bytes

A decoder turns the front of some bytes into characters, or says what is wrong
with how many of them; decoding repeats that from the first byte to the last.
The first fault ends it.
-/

namespace Diagnosis.Encoding

open Diagnosis.Text (decimal hexLast)

/-- What is wrong with some bytes. -/
structure Fault where
  /-- How many bytes are concerned. -/
  size : Nat
  reason : String
  deriving DecidableEq, Repr

/-- A fault at a position of some bytes, as a decoder of some name found it. -/
structure DecodeError where
  decoder : String
  position : Nat
  /-- The byte at the position. -/
  byte : Nat
  fault : Fault
  deriving DecidableEq, Repr

/-- The message of a fault. -/
def DecodeError.message (e : DecodeError) : String :=
  let place :=
    if e.fault.size = 1 then
      "byte 0x" ++ String.ofList (hexLast 2 e.byte) ++ " in position " ++ decimal e.position
    else
      "bytes in position " ++ decimal e.position ++ "-" ++ decimal (e.position + e.fault.size - 1)
  "'" ++ e.decoder ++ "' codec can't decode " ++ place ++ ": " ++ e.fault.reason

/-- One step: the characters that the front of some bytes stands for, and how many bytes they
take, at least one. -/
abbrev Step := List Nat → Except Fault (List Char × Nat)

/-- Decodes step by step, at most so many times, from a position on. -/
def decodeFrom (decoder : String) (step : Step) : Nat → Nat → List Nat → Except DecodeError (List Char)
  | 0, _, _ => .ok []
  | _, _, [] => .ok []
  | fuel + 1, position, b :: bs =>
    match step (b :: bs) with
    | .error fault => .error ⟨decoder, position, b, fault⟩
    | .ok (cs, n) => do
      let rest ← decodeFrom decoder step fuel (position + n) ((b :: bs).drop n)
      return cs ++ rest

/-- Decodes all of some bytes; `skipped` bytes before them count for positions. -/
def decodeAll (decoder : String) (step : Step) (skipped : Nat) (bytes : List Nat) :
    Except DecodeError (List Char) :=
  decodeFrom decoder step bytes.length skipped bytes

/-- The character of a code point that is known to be one. -/
def charOf (n : Nat) : Char := Char.ofNat n

/-- A byte of a table that gives a character for each byte from some first byte on; the bytes
before it stand for themselves, and U+FFFE marks the bytes that stand for nothing. -/
def tableStep (first : Nat) (table : Array Char) : Step
  | [] => .error ⟨1, "character maps to <undefined>"⟩
  | b :: _ =>
    if b < first then .ok ([charOf b], 1)
    else match table[b - first]? with
      | some c => if c == '\uFFFE' then .error ⟨1, "character maps to <undefined>"⟩ else .ok ([c], 1)
      | none => .error ⟨1, "character maps to <undefined>"⟩

/-- A byte of ASCII. -/
def asciiStep : Step
  | [] => .error ⟨1, "ordinal not in range(128)"⟩
  | b :: _ => if b < 128 then .ok ([charOf b], 1) else .error ⟨1, "ordinal not in range(128)"⟩

/-- A byte that stands for the character of its own number. -/
def latinStep : Step
  | [] => .ok ([], 1)
  | b :: _ => .ok ([charOf b], 1)

end Diagnosis.Encoding
