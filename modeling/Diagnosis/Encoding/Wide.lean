import Diagnosis.Encoding.Basic

/-!
# Units of two and four bytes

UTF-16 and UTF-32 in either byte order. Without a given order a signature at
the front tells it, and there is the little end first without one.
-/

namespace Diagnosis.Encoding

/-- Which end of a unit comes first. -/
inductive ByteOrder where
  | little
  | big
  deriving DecidableEq, Repr

/-- The suffix of the names of decoders for an order. -/
def ByteOrder.suffix : ByteOrder → String
  | .little => "-le"
  | .big => "-be"

/-- The number that bytes spell. -/
def ByteOrder.value (order : ByteOrder) (bytes : List Nat) : Nat :=
  match order with
  | .little => bytes.foldr (fun b n => n * 256 + b) 0
  | .big => bytes.foldl (fun n b => n * 256 + b) 0

namespace Utf16

/-- One character. -/
def step (order : ByteOrder) : Step := fun bytes =>
  if bytes.length < 2 then .error ⟨1, "truncated data"⟩ else
  let unit := order.value (bytes.take 2)
  if unit < 0xD800 ∨ 0xE000 ≤ unit then .ok ([charOf unit], 2)
  else if 0xDC00 ≤ unit then .error ⟨2, "illegal encoding"⟩
  else if bytes.length < 4 then .error ⟨bytes.length, "unexpected end of data"⟩
  else
    let low := order.value ((bytes.drop 2).take 2)
    if 0xDC00 ≤ low ∧ low < 0xE000 then
      .ok ([charOf (0x10000 + (unit - 0xD800) * 0x400 + (low - 0xDC00))], 4)
    else .error ⟨2, "illegal UTF-16 surrogate"⟩

/-- Decodes bytes in an order. -/
def decodeIn (order : ByteOrder) (skipped : Nat) (bytes : List Nat) : Except DecodeError (List Char) :=
  decodeAll ("utf-16" ++ order.suffix) (step order) skipped bytes

/-- Decodes bytes in the order that a signature tells. -/
def decode : List Nat → Except DecodeError (List Char)
  | 0xFF :: 0xFE :: rest => decodeIn .little 2 rest
  | 0xFE :: 0xFF :: rest => decodeIn .big 2 rest
  | bytes => decodeIn .little 0 bytes

end Utf16

namespace Utf32

/-- One character. -/
def step (order : ByteOrder) : Step := fun bytes =>
  if bytes.length < 4 then .error ⟨bytes.length, "truncated data"⟩ else
  let n := order.value (bytes.take 4)
  if 0xD800 ≤ n ∧ n < 0xE000 then .error ⟨4, "code point in surrogate code point range(0xd800, 0xe000)"⟩
  else if 0x110000 ≤ n then .error ⟨4, "code point not in range(0x110000)"⟩
  else .ok ([charOf n], 4)

/-- Decodes bytes in an order. -/
def decodeIn (order : ByteOrder) (skipped : Nat) (bytes : List Nat) : Except DecodeError (List Char) :=
  decodeAll ("utf-32" ++ order.suffix) (step order) skipped bytes

/-- Decodes bytes in the order that a signature tells. -/
def decode : List Nat → Except DecodeError (List Char)
  | 0xFF :: 0xFE :: 0 :: 0 :: rest => decodeIn .little 4 rest
  | 0 :: 0 :: 0xFE :: 0xFF :: rest => decodeIn .big 4 rest
  | bytes => decodeIn .little 0 bytes

end Utf32

end Diagnosis.Encoding
