import Diagnosis.Encoding.Basic

/-!
# UTF-7

Bytes below 0x80 stand for themselves, except that a plus sign opens a section
of UTF-16 in digits of six bits. Any other byte ends a section, and a minus
sign there is left out. A fault in a section concerns it from its plus sign on.
-/

namespace Diagnosis.Encoding.Utf7

/-- The value of a digit of six bits. -/
def digit? (b : Nat) : Option Nat :=
  if 0x41 ≤ b ∧ b ≤ 0x5A then some (b - 0x41)
  else if 0x61 ≤ b ∧ b ≤ 0x7A then some (b - 0x61 + 26)
  else if 0x30 ≤ b ∧ b ≤ 0x39 then some (b - 0x30 + 52)
  else if b = 0x2B then some 62
  else if b = 0x2F then some 63
  else none

/-- A section that has been opened. -/
structure Section where
  /-- The position of its plus sign. -/
  start : Nat
  /-- How many bits are pending. -/
  bits : Nat
  /-- The pending bits. -/
  pending : Nat
  /-- The first half of a surrogate pair. -/
  high : Option Nat
  deriving DecidableEq, Repr

/-- A section that has just been opened. -/
def Section.opened (start : Nat) : Section := ⟨start, 0, 0, none⟩

/-- The characters that a unit of UTF-16 completes, and the first half of a pair after it. Half
pairs alone are replaced. -/
def takeUnit (high : Option Nat) (unit : Nat) : List Char × Option Nat :=
  let alone := if high.isSome then ['\uFFFD'] else []
  if 0xD800 ≤ unit ∧ unit < 0xDC00 then (alone, some unit)
  else if 0xDC00 ≤ unit ∧ unit < 0xE000 then
    match high with
    | some h => ([charOf (0x10000 + (h - 0xD800) * 0x400 + (unit - 0xDC00))], none)
    | none => (['\uFFFD'], none)
  else (alone ++ [charOf unit], none)

/-- The characters that a digit completes, and the section after it. -/
def Section.push (s : Section) (digit : Nat) : List Char × Section :=
  let pending := s.pending * 64 + digit
  let bits := s.bits + 6
  if bits < 16 then ([], { s with bits, pending })
  else
    let (cs, high) := takeUnit s.high (pending / Nat.pow 2 (bits - 16))
    (cs, { s with bits := bits - 16, pending := pending % Nat.pow 2 (bits - 16), high })

/-- A fault of the bytes from a section's plus sign to before a position. -/
def Section.fault (s : Section) (stop : Nat) (reason : String) : DecodeError :=
  ⟨"utf7", s.start, 0x2B, ⟨stop - s.start, reason⟩⟩

/-- Ends a section before a byte at a position; the characters that are still pending. -/
def Section.close (s : Section) (position b : Nat) : Except DecodeError (List Char) :=
  if 6 ≤ s.bits then .error (s.fault (position + 1) "partial character in shift sequence")
  else if s.pending ≠ 0 then .error (s.fault (position + 1) "non-zero padding bits in shift sequence")
  else .ok (if s.high.isSome ∧ b < 0x80 then ['\uFFFD'] else [])

/-- A byte that stands for itself. -/
def direct (position b : Nat) : Except DecodeError Char :=
  if b < 0x80 then .ok (charOf b) else .error ⟨"utf7", position, b, ⟨1, "unexpected special character"⟩⟩

/-- Decodes bytes from a position on, in a section or outside. -/
def decodeFrom : Nat → Option Section → List Nat → Except DecodeError (List Char)
  | _, none, [] => .ok []
  | position, some s, [] =>
    if s.high.isSome ∨ 6 ≤ s.bits ∨ s.pending ≠ 0 then .error (s.fault position "unterminated shift sequence")
    else .ok []
  | position, some s, b :: bs =>
    match digit? b with
    | some d => do
      let (cs, next) := s.push d
      return cs ++ (← decodeFrom (position + 1) (some next) bs)
    | none => do
      let pending ← s.close position b
      if b = 0x2D then return pending ++ (← decodeFrom (position + 1) none bs)
      let c ← direct position b
      return pending ++ c :: (← decodeFrom (position + 1) none bs)
  | position, none, 0x2B :: bs =>
    match bs with
    | [] => .ok []
    | b :: rest =>
      if b = 0x2D then do return '+' :: (← decodeFrom (position + 2) none rest)
      else if (digit? b).isNone then .error ⟨"utf7", position, 0x2B, ⟨2, "ill-formed sequence"⟩⟩
      else decodeFrom (position + 1) (some (.opened position)) (b :: rest)
  | position, none, b :: bs => do
    let c ← direct position b
    return c :: (← decodeFrom (position + 1) none bs)

/-- Decodes bytes. -/
def decode (bytes : List Nat) : Except DecodeError (List Char) := decodeFrom 0 none bytes

end Diagnosis.Encoding.Utf7
