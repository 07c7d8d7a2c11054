import Diagnosis.Encoding.Basic

/-!
# UTF-8

One to four bytes a character; only the shortest form of a character counts,
and halves of surrogate pairs are no characters. A fault concerns the bytes up
to the first one that cannot continue a character.
-/

namespace Diagnosis.Encoding.Utf8

/-- Whether a byte continues a character. -/
def isTail (b : Nat) : Bool := 0x80 ≤ b && b < 0xC0

/-- Whether a byte may be the second one after a first one. -/
def isSecond (a b : Nat) : Bool :=
  isTail b && (a != 0xE0 || 0xA0 ≤ b) && (a != 0xED || b < 0xA0) && (a != 0xF0 || 0x90 ≤ b) &&
    (a != 0xF4 || b < 0x90)

/-- How many bytes a character has that begins with a byte; none if no character does. -/
def sizeOf? (a : Nat) : Option Nat :=
  if a < 0x80 then some 1
  else if a < 0xC2 then none
  else if a < 0xE0 then some 2
  else if a < 0xF0 then some 3
  else if a < 0xF5 then some 4
  else none

/-- How many of the bytes after a first one can continue it, out of at most so many. -/
def tailsAfter (a size : Nat) (bs : List Nat) : Nat :=
  match bs.take (size - 1) with
  | [] => 0
  | b :: rest => if isSecond a b then 1 + (rest.takeWhile isTail).length else 0

/-- The number that the bits of a character's bytes spell. -/
def codePoint (a size : Nat) (tails : List Nat) : Nat :=
  tails.foldl (fun n b => n * 64 + b % 64) (if size = 1 then a else a % Nat.pow 2 (7 - size))

/-- One character. -/
def step : Step
  | [] => .error ⟨1, "unexpected end of data"⟩
  | a :: bs =>
    match sizeOf? a with
    | none => .error ⟨1, "invalid start byte"⟩
    | some size =>
      let n := tailsAfter a size bs
      if n + 1 = size then .ok ([charOf (codePoint a size (bs.take n))], size)
      else if n = bs.length then .error ⟨n + 1, "unexpected end of data"⟩
      else .error ⟨n + 1, "invalid continuation byte"⟩

/-- Decodes bytes. -/
def decode (bytes : List Nat) : Except DecodeError (List Char) := decodeAll "utf-8" step 0 bytes

/-- Decodes bytes that may begin with a signature. -/
def decodeSigned : List Nat → Except DecodeError (List Char)
  | 0xEF :: 0xBB :: 0xBF :: rest => decode rest
  | bytes => decode bytes

/-- The bytes of a character. -/
def encodeChar (c : Char) : List Nat :=
  let n := c.toNat
  if n < 0x80 then [n]
  else if n < 0x800 then [0xC0 + n / 64, 0x80 + n % 64]
  else if n < 0x10000 then [0xE0 + n / 4096, 0x80 + n / 64 % 64, 0x80 + n % 64]
  else [0xF0 + n / 262144, 0x80 + n / 4096 % 64, 0x80 + n / 64 % 64, 0x80 + n % 64]

/-- The bytes of a text. -/
def encode (cs : List Char) : List Nat := cs.flatMap encodeChar

/-- The characters of bytes; each run of bytes that is none becomes one replacement character. -/
def decodeLossyFrom : Nat → List Nat → List Char
  | 0, _ => []
  | _, [] => []
  | fuel + 1, b :: bs =>
    match step (b :: bs) with
    | .ok (cs, n) => cs ++ decodeLossyFrom fuel ((b :: bs).drop n)
    | .error fault => '\uFFFD' :: decodeLossyFrom fuel ((b :: bs).drop fault.size)

/-- The characters of bytes, with replacement characters for what is none. -/
def decodeLossy (bytes : List Nat) : List Char := decodeLossyFrom bytes.length bytes

end Diagnosis.Encoding.Utf8
