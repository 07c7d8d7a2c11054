import Mathlib.Algebra.Group.Nat.Defs
import Mathlib.Data.List.Induction
import Diagnosis.Text.Digits
import Diagnosis.Text.Numeral

/-!
# Decimal text is read back

Digits of ASCII without anything around them spell the number they are the
decimal text of, unless there are more of them than a number may have. A number
that is read can be written.
-/

namespace Diagnosis.Text

open Diagnosis.Unicode (digitValue?)

theorem isDigit_iff (c : Char) : c.isDigit = true ↔ 48 ≤ c.toNat ∧ c.toNat ≤ 57 := by
  simp only [Char.isDigit, Bool.and_eq_true, decide_eq_true_eq, ge_iff_le, UInt32.le_iff_toNat_le]
  rfl

theorem digitValue?_of_isDigit {c : Char} (digit : c.isDigit = true) :
    digitValue? c.toNat = some (c.toNat - 48) := by
  obtain ⟨low, high⟩ := (isDigit_iff c).mp digit
  rw [digitValue?, if_pos (by omega), if_pos (by simp [low, high])]

theorem aroundNumber_of_isDigit {c : Char} (digit : c.isDigit = true) : aroundNumber c = false := by
  obtain ⟨low, high⟩ := (isDigit_iff c).mp digit
  have same : c.val.toNat = c.toNat := rfl
  have blank : isBlank c = false := by
    simp only [isBlank, Bool.or_eq_false_iff, Bool.and_eq_false_iff, decide_eq_false_iff_not, beq_eq_false_iff_ne,
      ne_eq, UInt32.le_iff_toNat_le, ← UInt32.toNat_inj, same]
    simp only [UInt32.reduceToNat]
    omega
  simp [aroundNumber, blank]

/-- Digits are read one by one. -/
theorem digitGroups?_of_digits {cs : List Char} (some_digit : cs ≠ []) (digits : ∀ c ∈ cs, c.isDigit = true) :
    digitGroups? cs = some (cs.map fun c => c.toNat - 48) := by
  fun_induction digitGroups? cs with
  | case1 => exact absurd rfl some_digit
  | case2 c => simp [digitValue?_of_isDigit (digits c List.mem_cons_self)]
  | case3 c rest ih =>
    have score : ('_' : Char).isDigit = true := digits '_' (by simp)
    cases score
  | case4 c rest single unscored ih =>
    have others := ih single fun d member => digits d (List.mem_cons_of_mem _ member)
    simp [digitValue?_of_isDigit (digits c List.mem_cons_self), others]

theorem ofDigits_map (cs : List Char) : ofDigits (cs.map fun c => c.toNat - 48) = Nat.ofDigitChars 10 cs 0 := by
  rw [ofDigits, Nat.ofDigitChars, List.foldl_map]
  rfl

theorem trimmed_of_digits {cs : List Char} (digits : ∀ c ∈ cs, c.isDigit = true) :
    ((cs.dropWhile aroundNumber).reverse.dropWhile aroundNumber).reverse = cs := by
  have front : cs.dropWhile aroundNumber = cs := by
    cases cs with
    | nil => rfl
    | cons c rest => simp [aroundNumber_of_isDigit (digits c List.mem_cons_self)]
  have back : cs.reverse.dropWhile aroundNumber = cs.reverse := by
    cases turned : cs.reverse with
    | nil => rfl
    | cons c rest =>
      have member : c ∈ cs := List.mem_reverse.mp (turned ▸ List.mem_cons_self)
      simp [aroundNumber_of_isDigit (digits c member)]
  rw [front, back, List.reverse_reverse]

/-- Digits spell a number unless there are too many of them. -/
theorem readInt?_of_digits {cs : List Char} (some_digit : cs ≠ []) (digits : ∀ c ∈ cs, c.isDigit = true) :
    readInt? cs = if cs.length ≤ digitLimit then some (Nat.ofDigitChars 10 cs 0 : Int) else none := by
  have unsigned : readNat? cs = if cs.length ≤ digitLimit then some (Nat.ofDigitChars 10 cs 0) else none := by
    simp [readNat?, digitGroups?_of_digits some_digit digits, ofDigits_map]
  have whole : (readNat? cs).map Int.ofNat =
      if cs.length ≤ digitLimit then some (Nat.ofDigitChars 10 cs 0 : Int) else none := by
    rw [unsigned]
    split <;> rfl
  rw [readInt?, trimmed_of_digits digits]
  -- A sign is no digit, so the number is read without one.
  split
  · exact absurd (digits '-' List.mem_cons_self) (by decide)
  · exact absurd (digits '+' List.mem_cons_self) (by decide)
  · exact whole

/-! ## Decimal text -/

theorem toList_decimal (n : Nat) : (decimal n).toList = Nat.toDigits 10 n := String.toList_ofList

theorem decimal_digits (n : Nat) : ∀ c ∈ (decimal n).toList, c.isDigit = true := by
  intro c member
  rw [toList_decimal] at member
  exact Nat.isDigit_of_mem_toDigits (by omega) (by omega) member

theorem decimal_ne_nil (n : Nat) : (decimal n).toList ≠ [] := by
  rw [toList_decimal]
  exact Nat.toDigits_ne_nil

/-- The decimal text of a number is read back as it, unless it has too many digits. -/
theorem readInt?_decimal (n : Nat) :
    readInt? (decimal n).toList = if n < 10 ^ digitLimit then some (n : Int) else none := by
  have short : (decimal n).toList.length ≤ digitLimit ↔ n < 10 ^ digitLimit := by
    rw [toList_decimal]
    exact Nat.length_toDigits_le_iff (by omega) (by decide)
  have value : Nat.ofDigitChars 10 (decimal n).toList 0 = n := by
    rw [toList_decimal]
    exact Nat.ofDigitChars_toDigits (by omega) (by omega)
  simp only [readInt?_of_digits (decimal_ne_nil n) (decimal_digits n), short, value]

/-! ## Numbers that are read can be written -/

theorem isShort_iff (n : Int) : isShort n = true ↔ n.natAbs < 10 ^ digitLimit := by
  rw [isShort, Nat.pow_eq, decide_eq_true_eq]

theorem digitValue?_lt {c d : Nat} (digit : digitValue? c = some d) : d < 10 := by
  unfold digitValue? at digit
  split at digit
  · split at digit
    · next inside =>
      cases digit
      rw [Bool.and_eq_true, decide_eq_true_eq, decide_eq_true_eq] at inside
      omega
    · cases digit
  · obtain ⟨first, found, rfl⟩ := Option.map_eq_some_iff.mp digit
    have inside := List.find?_some found
    rw [Bool.and_eq_true, decide_eq_true_eq, decide_eq_true_eq] at inside
    omega

theorem digitGroups?_lt {cs : List Char} {ds : List Nat} (read : digitGroups? cs = some ds) : ∀ d ∈ ds, d < 10 := by
  fun_induction digitGroups? cs generalizing ds with
  | case1 => cases read
  | case2 c =>
    obtain ⟨d, digit, rfl⟩ := Option.map_eq_some_iff.mp read
    simpa using digitValue?_lt digit
  | case3 c rest ih | case4 c rest _ _ ih =>
    simp only [Option.bind_eq_bind, Option.bind_eq_some_iff, Option.pure_def, Option.some.injEq] at read
    obtain ⟨d, digit, more, others, rfl⟩ := read
    exact List.forall_mem_cons.mpr ⟨digitValue?_lt digit, ih others⟩

theorem ofDigits_lt {ds : List Nat} (digits : ∀ d ∈ ds, d < 10) : ofDigits ds < 10 ^ ds.length := by
  induction ds using List.reverseRecOn with
  | nil => decide
  | append_singleton ds d ih =>
    have before := ih fun e member => digits e (List.mem_append_left _ member)
    have last : d < 10 := digits d (by simp)
    have split : ofDigits (ds ++ [d]) = 10 * ofDigits ds + d := by simp [ofDigits]
    rw [split, List.length_append, List.length_singleton, Nat.pow_succ]
    omega

theorem readNat?_lt {cs : List Char} {n : Nat} (read : readNat? cs = some n) : n < 10 ^ digitLimit := by
  simp only [readNat?, Option.bind_eq_bind, Option.bind_eq_some_iff] at read
  obtain ⟨ds, groups, few⟩ := read
  split at few
  · next short =>
    cases few
    exact Nat.lt_of_lt_of_le (ofDigits_lt (digitGroups?_lt groups)) (Nat.pow_le_pow_right (by decide) short)
  · cases few

/-- Whatever number a text spells can be written. -/
theorem isShort_of_readInt? {cs : List Char} {n : Int} (read : readInt? cs = some n) : isShort n = true := by
  rw [isShort_iff]
  unfold readInt? at read
  split at read
  · simp only [Option.bind_eq_bind, Option.pure_def, Option.map_eq_some_iff, Option.bind_eq_some_iff,
      Option.some.injEq] at read
    obtain ⟨_, ⟨m, unsigned, rfl⟩, rfl⟩ := read
    rw [Int.natAbs_neg]
    exact readNat?_lt unsigned
  · obtain ⟨m, unsigned, rfl⟩ := Option.map_eq_some_iff.mp read
    exact readNat?_lt unsigned
  · obtain ⟨m, unsigned, rfl⟩ := Option.map_eq_some_iff.mp read
    exact readNat?_lt unsigned

end Diagnosis.Text
