import Mathlib.Data.List.TakeWhile
import Diagnosis.Encoding.Utf8

/-!
# UTF-8 round trip

The bytes of a character are read as that character, whatever comes after them,
and so the bytes of a text as that text.
-/

namespace Diagnosis.Encoding

namespace Utf8

/-- The bytes of a character, by its range; halves of surrogate pairs are no characters. -/
theorem encodeChar_cases (c : Char) :
    (c.toNat < 0x80 ∧ encodeChar c = [c.toNat]) ∨
    ((0x80 ≤ c.toNat ∧ c.toNat < 0x800) ∧ encodeChar c = [0xC0 + c.toNat / 64, 0x80 + c.toNat % 64]) ∨
    ((0x800 ≤ c.toNat ∧ c.toNat < 0x10000 ∧ ¬ (0xD800 ≤ c.toNat ∧ c.toNat < 0xE000)) ∧
      encodeChar c = [0xE0 + c.toNat / 4096, 0x80 + c.toNat / 64 % 64, 0x80 + c.toNat % 64]) ∨
    ((0x10000 ≤ c.toNat ∧ c.toNat < 0x110000) ∧
      encodeChar c =
        [0xF0 + c.toNat / 262144, 0x80 + c.toNat / 4096 % 64, 0x80 + c.toNat / 64 % 64, 0x80 + c.toNat % 64]) := by
  have valid : c.toNat.isValidChar := c.valid
  unfold encodeChar
  dsimp only
  by_cases one : c.toNat < 0x80
  · exact .inl ⟨one, if_pos one⟩
  · rw [if_neg one]
    by_cases two : c.toNat < 0x800
    · exact .inr (.inl ⟨⟨by omega, two⟩, if_pos two⟩)
    · rw [if_neg two]
      by_cases three : c.toNat < 0x10000
      · refine .inr (.inr (.inl ⟨⟨by omega, three, ?_⟩, if_pos three⟩))
        rcases valid with low | ⟨above, _⟩ <;> omega
      · refine .inr (.inr (.inr ⟨⟨by omega, ?_⟩, if_neg three⟩))
        rcases valid with low | ⟨_, below⟩ <;> omega

theorem charOf_toNat (c : Char) : charOf c.toNat = c := Char.ofNat_toNat c

/-- A first byte and the right number of bytes that continue it are read as one character. -/
theorem step_whole {a : Nat} {tails : List Nat} (sized : sizeOf? a = some (tails.length + 1))
    (continues : ∀ b more, tails = b :: more → isSecond a b = true ∧ more.all isTail = true) (rest : List Nat) :
    step (a :: (tails ++ rest)) = .ok ([charOf (codePoint a (tails.length + 1) tails)], tails.length + 1) := by
  have tailed : tailsAfter a (tails.length + 1) (tails ++ rest) = tails.length := by
    rw [tailsAfter, Nat.add_sub_cancel, List.take_left]
    cases tails with
    | nil => rfl
    | cons b more =>
      obtain ⟨second, others⟩ := continues b more rfl
      have all : more.takeWhile isTail = more :=
        List.takeWhile_eq_self_iff.mpr fun x member => List.all_eq_true.mp others x member
      simp only [second, ↓reduceIte, all, List.length_cons]
      omega
  simp only [step, sized, tailed, ↓reduceIte, List.take_left]

/-- The bytes of a character are read as it. -/
theorem step_encodeChar (c : Char) (rest : List Nat) :
    step (encodeChar c ++ rest) = .ok ([c], (encodeChar c).length) := by
  have whole {a : Nat} {tails : List Nat} (bytes : encodeChar c = a :: tails)
      (sized : sizeOf? a = some (tails.length + 1))
      (continues : ∀ b more, tails = b :: more → isSecond a b = true ∧ more.all isTail = true)
      (spells : codePoint a (tails.length + 1) tails = c.toNat) :
      step (encodeChar c ++ rest) = .ok ([c], (encodeChar c).length) := by
    rw [bytes, List.cons_append, step_whole sized continues, spells, charOf_toNat]
    rfl
  rcases encodeChar_cases c with ⟨one, bytes⟩ | ⟨two, bytes⟩ | ⟨three, bytes⟩ | ⟨four, bytes⟩
  · refine whole bytes ?_ (by simp) rfl
    rw [sizeOf?, if_pos one]
    rfl
  · refine whole bytes ?_ ?_ ?_
    · rw [sizeOf?, if_neg (by omega), if_neg (by omega), if_pos (by omega)]
      rfl
    · rintro b more ⟨⟩
      simp [isSecond, isTail]
      omega
    · simp [codePoint]
      omega
  · refine whole bytes ?_ ?_ ?_
    · rw [sizeOf?, if_neg (by omega), if_neg (by omega), if_neg (by omega), if_pos (by omega)]
      rfl
    · rintro b more ⟨⟩
      simp [isSecond, isTail]
      omega
    · simp [codePoint]
      omega
  · refine whole bytes ?_ ?_ ?_
    · rw [sizeOf?, if_neg (by omega), if_neg (by omega), if_neg (by omega), if_neg (by omega), if_pos (by omega)]
      rfl
    · rintro b more ⟨⟩
      simp [isSecond, isTail]
      omega
    · simp [codePoint]
      omega

theorem encodeChar_ne_nil (c : Char) : encodeChar c ≠ [] := by
  rcases encodeChar_cases c with ⟨_, bytes⟩ | ⟨_, bytes⟩ | ⟨_, bytes⟩ | ⟨_, bytes⟩ <;> simp [bytes]

theorem decodeFrom_encode (decoder : String) (cs : List Char) (fuel position : Nat)
    (enough : (encode cs).length ≤ fuel) : decodeFrom decoder step fuel position (encode cs) = .ok cs := by
  induction cs generalizing fuel position with
  | nil => cases fuel <;> rfl
  | cons c rest ih =>
    have bytes : encode (c :: rest) = encodeChar c ++ encode rest := rfl
    rw [bytes, List.length_append] at enough
    have read := step_encodeChar c (encode rest)
    have some_byte := List.length_pos_iff.mpr (encodeChar_ne_nil c)
    rw [bytes]
    obtain ⟨b, bs, shape⟩ : ∃ b bs, encodeChar c ++ encode rest = b :: bs :=
      List.exists_cons_of_ne_nil (by simp [encodeChar_ne_nil])
    have left : (b :: bs).drop (encodeChar c).length = encode rest := by
      rw [← shape, List.drop_left]
    cases fuel with
    | zero => omega
    | succ fuel =>
      rw [shape] at read ⊢
      simp only [decodeFrom, read, left]
      rw [ih fuel _ (by omega)]
      rfl

/-- The bytes of a text are read as that text. -/
theorem decode_encode (cs : List Char) : decode (encode cs) = .ok cs := decodeFrom_encode _ cs _ _ (Nat.le_refl _)

theorem encode_injective {cs ds : List Char} (same : encode cs = encode ds) : cs = ds := by
  have read := decode_encode cs
  rw [same, decode_encode ds] at read
  exact (Except.ok.inj read).symm

/-- Bytes are small. -/
theorem encode_lt {cs : List Char} {b : Nat} (member : b ∈ encode cs) : b < 256 := by
  obtain ⟨c, _, inside⟩ := List.mem_flatMap.mp member
  rcases encodeChar_cases c with ⟨range, bytes⟩ | ⟨range, bytes⟩ | ⟨range, bytes⟩ | ⟨range, bytes⟩ <;>
    · simp only [bytes, List.mem_cons, List.not_mem_nil, or_false] at inside
      omega

end Utf8

end Diagnosis.Encoding
