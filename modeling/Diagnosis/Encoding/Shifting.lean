import Diagnosis.Encoding.Basic

/-!
# Decoding with a state

Some encodings change what bytes stand for as they go on. Such a decoder has a
state that every step may change.
-/

namespace Diagnosis.Encoding

/-- One step from a state: the characters, the state after them, and how many bytes they take, at
least one. -/
abbrev ShiftStep (σ : Type) := σ → List Nat → Except Fault (List Char × σ × Nat)

/-- Decodes step by step, at most so many times, from a state and a position on. -/
def decodeShiftingFrom (decoder : String) {σ : Type} (step : ShiftStep σ) :
    Nat → σ → Nat → List Nat → Except DecodeError (List Char)
  | 0, _, _, _ => .ok []
  | _, _, _, [] => .ok []
  | fuel + 1, state, position, b :: bs =>
    match step state (b :: bs) with
    | .error fault => .error ⟨decoder, position, b, fault⟩
    | .ok (cs, next, n) => do
      let rest ← decodeShiftingFrom decoder step fuel next (position + n) ((b :: bs).drop n)
      return cs ++ rest

/-- Decodes all of some bytes from a state on. -/
def decodeShifting (decoder : String) {σ : Type} (step : ShiftStep σ) (state : σ) (bytes : List Nat) :
    Except DecodeError (List Char) :=
  decodeShiftingFrom decoder step bytes.length state 0 bytes

end Diagnosis.Encoding
