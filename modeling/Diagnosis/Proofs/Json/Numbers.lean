import Mathlib.Data.List.TakeWhile
import Diagnosis.Json.Reader
import Diagnosis.Json.Writer
import Diagnosis.Proofs.Number.Shortest
import Diagnosis.Proofs.Text.Numeral

/-!
# Numbers are read back

A number that is spelled by its digits, with or without a fraction and an exponent, is read as
what the digits say, whatever comes after it that does not go on with it. So the text of a
number is read back as the number.
-/

namespace Diagnosis.Json

open Diagnosis.Number Diagnosis.Text

/-! ## Runs of digits -/

/-- Nothing but digits. -/
def Digits (ds : List Char) : Prop := ∀ c ∈ ds, c.isDigit = true

/-- What comes after a number does not go on with it. -/
def Ends (rest : List Char) : Prop :=
  ∀ c, rest.head? = some c → c.isDigit = false ∧ c ≠ '.' ∧ c ≠ 'e' ∧ c ≠ 'E'

theorem digitsValue_eq (ds : List Char) : digitsValue ds = Nat.ofDigitChars 10 ds 0 := by
  rw [← ofDigits_map, ofDigits, List.foldl_map]
  rfl

theorem digitsValue_append (as bs : List Char) :
    digitsValue (as ++ bs) = digitsValue as * 10 ^ bs.length + digitsValue bs := by
  have from_start (ds : List Char) (start : Nat) :
      ds.foldl (fun n d => 10 * n + (d.toNat - 48)) start = start * 10 ^ ds.length + digitsValue ds := by
    induction ds generalizing start with
    | nil => simp [digitsValue]
    | cons d rest ih =>
      have first : digitsValue (d :: rest) = (10 * 0 + (d.toNat - 48)) * 10 ^ rest.length + digitsValue rest := ih _
      rw [List.foldl_cons, ih, first, List.length_cons, pow_succ]
      ring
  rw [digitsValue, List.foldl_append, from_start bs]
  rfl

theorem digitsValue_zeros (n : Nat) : digitsValue (List.replicate n '0') = 0 := by
  induction n with
  | zero => rfl
  | succ n ih =>
    rw [List.replicate_succ, ← List.singleton_append, digitsValue_append, ih]
    simp [digitsValue]

theorem digitsValue_toDigits (n : Nat) : digitsValue (Nat.toDigits 10 n) = n := by
  rw [digitsValue_eq]
  exact Nat.ofDigitChars_toDigits (by omega) (by omega)

theorem digits_toDigits (n : Nat) : Digits (Nat.toDigits 10 n) := fun _ member =>
  Nat.isDigit_of_mem_toDigits (by omega) (by omega) member

/-- Digits are taken up to where something else comes. -/
theorem takeWhile_digits {ds rest : List Char} (digits : Digits ds) (ends : ∀ c, rest.head? = some c → c.isDigit = false) :
    (ds ++ rest).takeWhile Char.isDigit = ds := by
  rw [List.takeWhile_append_of_pos digits]
  cases rest with
  | nil => simp
  | cons c more => simp [ends c rfl]

/-! ## Spelled numbers -/

/-- A number as it is spelled: the digits before and after the point, and an exponent with its sign. -/
structure Spelling where
  whole : List Char
  fraction : List Char := []
  exponent : Option (Bool × List Char) := none

namespace Spelling

/-- The characters of a spelled exponent. -/
def exponentText : Option (Bool × List Char) → List Char
  | none => []
  | some (down, ds) => 'e' :: (if down then '-' else '+') :: ds

/-- The characters of a spelled number. -/
def text (s : Spelling) : List Char :=
  s.whole ++ ((if s.fraction.isEmpty then [] else '.' :: s.fraction) ++ exponentText s.exponent)

/-- What is read of an exponent: its sign, the number of characters before its digits, and these. -/
def exponentRead : Option (Bool × List Char) → Bool × Nat × List Char
  | none => (false, 0, [])
  | some (down, ds) => (down, 2, ds)

/-- The power of ten that the last digit before the exponent counts. -/
def power (s : Spelling) : Int :=
  (if (exponentRead s.exponent).1 then -(digitsValue (exponentRead s.exponent).2.2 : Int)
    else digitsValue (exponentRead s.exponent).2.2) - s.fraction.length

/-- The digits are digits, there are some before the point, without a zero in front, and in the exponent. -/
structure WellFormed (s : Spelling) : Prop where
  some_digit : s.whole ≠ []
  whole : Digits s.whole
  leading : s.whole = ['0'] ∨ s.whole.head? ≠ some '0'
  fraction : Digits s.fraction
  exponent : ∀ down ds, s.exponent = some (down, ds) → ds ≠ [] ∧ Digits ds

end Spelling

/-! ## Reading spelled numbers -/

/-- A text without the sign in front of it. -/
def signOf : List Char → Bool × List Char
  | '-' :: rest => (true, rest)
  | rest => (false, rest)

/-- The digits before the point. -/
def wholeOf : List Char → List Char
  | '0' :: _ => ['0']
  | rest => rest.takeWhile Char.isDigit

/-- The digits after the point. -/
def fractionOf : List Char → List Char
  | '.' :: rest => rest.takeWhile Char.isDigit
  | _ => []

/-- The sign of an exponent, the number of characters before its digits, and these. -/
def exponentOf : List Char → Bool × Nat × List Char
  | e :: rest =>
    if e == 'e' || e == 'E' then
      match rest with
      | '-' :: ds => (true, 2, ds.takeWhile Char.isDigit)
      | '+' :: ds => (false, 2, ds.takeWhile Char.isDigit)
      | ds => (false, 1, ds.takeWhile Char.isDigit)
    else (false, 0, [])
  | [] => (false, 0, [])

theorem number_eq (c : Cursor) :
    c.number =
      let negative := (signOf c.rest).1
      let body := (signOf c.rest).2
      let whole := wholeOf body
      if whole.isEmpty then c.fail .value else
      let after := body.drop whole.length
      let fraction := fractionOf after
      let after' := if fraction.isEmpty then after else after.drop (fraction.length + 1)
      let exponent := exponentOf after'
      let taken := (if negative then 1 else 0) + whole.length +
        (if fraction.isEmpty then 0 else fraction.length + 1) +
        (if exponent.2.2.isEmpty then 0 else exponent.2.1 + exponent.2.2.length)
      if fraction.isEmpty && exponent.2.2.isEmpty then
        if 4300 < whole.length then .error (.digits whole.length)
        else .ok (.int (if negative then -(digitsValue whole : Int) else digitsValue whole), c.skip taken)
      else
        .ok (.real (Binary64.ofDecimal negative (digitsValue (whole ++ fraction))
          ((if exponent.1 then -(digitsValue exponent.2.2 : Int) else digitsValue exponent.2.2) - fraction.length)),
          c.skip taken) := rfl

section

variable {s : Spelling} {rest : List Char}

/-- After the digits before the point comes no digit. -/
theorem head_behind_whole (ends : Ends rest) (c : Char)
    (first : ((if s.fraction.isEmpty then [] else '.' :: s.fraction) ++ (Spelling.exponentText s.exponent ++ rest)).head? =
      some c) : c.isDigit = false := by
  cases fraction : s.fraction with
  | cons d more =>
    simp only [fraction, List.isEmpty_cons, Bool.false_eq_true, ↓reduceIte, List.cons_append, List.head?_cons,
      Option.some.injEq] at first
    exact first ▸ rfl
  | nil =>
    simp only [fraction, List.isEmpty_nil, ↓reduceIte, List.nil_append] at first
    cases exponent : s.exponent with
    | none =>
      rw [exponent] at first
      exact (ends c first).1
    | some e =>
      rw [exponent] at first
      cases Option.some.inj first
      rfl

theorem wholeOf_text (wellFormed : s.WellFormed) {tail : List Char} (ends : ∀ c, tail.head? = some c → c.isDigit = false) :
    wholeOf (s.whole ++ tail) = s.whole := by
  rcases wellFormed.leading with zero | other
  · rw [zero]
    rfl
  · obtain ⟨d, more, whole⟩ := List.exists_cons_of_ne_nil wellFormed.some_digit
    have taken := takeWhile_digits wellFormed.whole ends
    rw [whole] at other taken ⊢
    rw [List.cons_append, wholeOf]
    · exact taken
    · rintro _ same
      cases same
      exact other rfl

theorem signOf_digits {cs : List Char} (digit : ∀ c, cs.head? = some c → c.isDigit = true) : signOf cs = (false, cs) := by
  cases cs with
  | nil => rfl
  | cons c more =>
    rw [signOf]
    rintro _ same
    cases same
    exact absurd (digit '-' rfl) (by decide)

theorem fractionOf_text (wellFormed : s.WellFormed) (ends : Ends rest) :
    fractionOf ((if s.fraction.isEmpty then [] else '.' :: s.fraction) ++ (Spelling.exponentText s.exponent ++ rest)) =
      s.fraction := by
  have behind (c : Char) (first : (Spelling.exponentText s.exponent ++ rest).head? = some c) :
      c.isDigit = false ∧ c ≠ '.' := by
    cases exponent : s.exponent with
    | none =>
      rw [exponent] at first
      exact ⟨(ends c first).1, (ends c first).2.1⟩
    | some e =>
      rw [exponent] at first
      cases Option.some.inj first
      exact ⟨rfl, by decide⟩
  cases fraction : s.fraction with
  | nil =>
    rw [List.isEmpty_nil, if_pos rfl, List.nil_append]
    cases tail : Spelling.exponentText s.exponent ++ rest with
    | nil => rfl
    | cons c more =>
      rw [fractionOf]
      rintro _ same
      cases same
      rw [tail] at behind
      exact (behind '.' rfl).2 rfl
  | cons d more =>
    have taken := takeWhile_digits wellFormed.fraction fun c first => (behind c first).1
    rw [fraction] at taken
    exact taken

theorem exponentOf_text (wellFormed : s.WellFormed) (ends : Ends rest) :
    exponentOf (Spelling.exponentText s.exponent ++ rest) = Spelling.exponentRead s.exponent := by
  cases exponent : s.exponent with
  | none =>
    rw [Spelling.exponentText, List.nil_append]
    cases rest with
    | nil => rfl
    | cons c more =>
      obtain ⟨_, _, small, capital⟩ := ends c rfl
      simp [exponentOf, small, capital, Spelling.exponentRead]
  | some e =>
    obtain ⟨down, ds⟩ := e
    have taken := takeWhile_digits (wellFormed.exponent down ds exponent).2 fun c first => (ends c first).1
    cases down <;> simp [Spelling.exponentText, exponentOf, taken, Spelling.exponentRead]

theorem length_text (wellFormed : s.WellFormed) :
    s.text.length = s.whole.length + (if s.fraction.isEmpty then 0 else s.fraction.length + 1) +
      (if (Spelling.exponentRead s.exponent).2.2.isEmpty then 0
        else (Spelling.exponentRead s.exponent).2.1 + (Spelling.exponentRead s.exponent).2.2.length) := by
  have fraction : (if s.fraction.isEmpty then [] else '.' :: s.fraction).length =
      if s.fraction.isEmpty then 0 else s.fraction.length + 1 := by
    split <;> rfl
  have exponent : (Spelling.exponentText s.exponent).length =
      if (Spelling.exponentRead s.exponent).2.2.isEmpty then 0
      else (Spelling.exponentRead s.exponent).2.1 + (Spelling.exponentRead s.exponent).2.2.length := by
    cases given : s.exponent with
    | none => rfl
    | some e =>
      obtain ⟨down, ds⟩ := e
      have some_digit : ds.isEmpty = false := List.isEmpty_eq_false_iff.mpr (wellFormed.exponent down ds given).1
      simp only [Spelling.exponentText, Spelling.exponentRead, some_digit, List.length_cons, Bool.false_eq_true,
        ↓reduceIte]
      omega
  rw [Spelling.text, List.length_append, List.length_append, fraction, exponent, Nat.add_assoc]

theorem spelled_whole_iff (wellFormed : s.WellFormed) :
    (s.fraction.isEmpty && (Spelling.exponentRead s.exponent).2.2.isEmpty) = true ↔ s.fraction = [] ∧ s.exponent = none := by
  rw [Bool.and_eq_true, List.isEmpty_iff, List.isEmpty_iff]
  refine and_congr_right fun _ => ?_
  cases given : s.exponent with
  | none => simp [Spelling.exponentRead]
  | some e =>
    obtain ⟨down, ds⟩ := e
    simp [Spelling.exponentRead, (wellFormed.exponent down ds given).1]

/-- A spelled number is read as what it says. -/
theorem number_text (wellFormed : s.WellFormed) (ends : Ends rest) (negative : Bool) (offset : Nat) :
    Cursor.number ⟨(if negative then ['-'] else []) ++ (s.text ++ rest), offset⟩ =
      if s.fraction = [] ∧ s.exponent = none then
        if 4300 < s.whole.length then .error (.digits s.whole.length)
        else .ok (.int (if negative then -(digitsValue s.whole : Int) else digitsValue s.whole),
          ⟨rest, offset + ((if negative then ['-'] else []) ++ s.text).length⟩)
      else .ok (.real (Binary64.ofDecimal negative (digitsValue (s.whole ++ s.fraction)) s.power),
          ⟨rest, offset + ((if negative then ['-'] else []) ++ s.text).length⟩) := by
  have body : signOf ((if negative then ['-'] else []) ++ (s.text ++ rest)) = (negative, s.text ++ rest) := by
    cases negative with
    | true => rfl
    | false =>
      refine signOf_digits fun c first => ?_
      obtain ⟨d, more, whole⟩ := List.exists_cons_of_ne_nil wellFormed.some_digit
      rw [Spelling.text, whole] at first
      cases Option.some.inj first
      exact wellFormed.whole c (whole ▸ List.mem_cons_self)
  have pieces : s.text ++ rest = s.whole ++
      ((if s.fraction.isEmpty then [] else '.' :: s.fraction) ++ (Spelling.exponentText s.exponent ++ rest)) := by
    simp [Spelling.text]
  have whole : wholeOf (s.text ++ rest) = s.whole := by
    rw [pieces]
    exact wholeOf_text wellFormed (head_behind_whole ends)
  have after : (s.text ++ rest).drop s.whole.length =
      (if s.fraction.isEmpty then [] else '.' :: s.fraction) ++ (Spelling.exponentText s.exponent ++ rest) := by
    rw [pieces, List.drop_left]
  have behind : (if s.fraction.isEmpty then
        (if s.fraction.isEmpty then [] else '.' :: s.fraction) ++ (Spelling.exponentText s.exponent ++ rest)
      else ((if s.fraction.isEmpty then [] else '.' :: s.fraction) ++ (Spelling.exponentText s.exponent ++ rest)).drop
        (s.fraction.length + 1)) = Spelling.exponentText s.exponent ++ rest := by
    cases s.fraction <;> simp
  have some_digit : s.whole.isEmpty = false := List.isEmpty_eq_false_iff.mpr wellFormed.some_digit
  rw [number_eq]
  dsimp only
  rw [body]
  dsimp only
  rw [whole, some_digit, after, fractionOf_text wellFormed ends, behind, exponentOf_text wellFormed ends]
  have sign : (if negative then ['-'] else []).length = if negative then 1 else 0 := by cases negative <;> rfl
  have sized : ((if negative then ['-'] else []) ++ s.text).length =
      (if negative then ['-'] else []).length + s.text.length := List.length_append
  rw [sign, length_text wellFormed, ← Nat.add_assoc, ← Nat.add_assoc] at sized
  rw [Cursor.skip, ← List.append_assoc, List.drop_left' sized, if_neg Bool.false_ne_true, sized]
  simp only [spelled_whole_iff wellFormed]
  rfl

end

/-! ## The digits of a number -/

theorem digitsValue_lt {ds : List Char} (digits : Digits ds) : digitsValue ds < 10 ^ ds.length := by
  induction ds with
  | nil => simp [digitsValue]
  | cons d rest ih =>
    have small := ih fun c member => digits c (List.mem_cons_of_mem _ member)
    obtain ⟨_, high⟩ := (isDigit_iff d).mp (digits d List.mem_cons_self)
    have first : digitsValue [d] ≤ 9 := by
      simp only [digitsValue, List.foldl_cons, List.foldl_nil]
      omega
    rw [← List.singleton_append, digitsValue_append, List.length_append, pow_add]
    simp only [List.length_singleton, pow_one]
    nlinarith [Nat.mul_le_mul_right (10 ^ rest.length) first]

/-- The digits of a number do not begin with a zero. -/
theorem head?_toDigits {m : Nat} (positive : 0 < m) : (Nat.toDigits 10 m).head? ≠ some '0' := by
  intro zero
  obtain ⟨first, rest, shape⟩ := List.exists_cons_of_ne_nil (Nat.toDigits_ne_nil (b := 10) (n := m))
  rw [shape] at zero
  cases Option.some.inj zero
  have value := digitsValue_toDigits m
  rw [shape, ← List.singleton_append, digitsValue_append] at value
  have nothing : digitsValue ['0'] = 0 := by simp [digitsValue]
  rw [nothing, Nat.zero_mul, Nat.zero_add] at value
  have small : m < 10 ^ rest.length := by
    rw [← value]
    exact digitsValue_lt fun c member => digits_toDigits m c (shape ▸ List.mem_cons_of_mem _ member)
  rcases Nat.eq_zero_or_pos rest.length with none_more | some_more
  · rw [none_more] at small
    omega
  · have short := (Nat.length_toDigits_le_iff (by omega) some_more).mpr small
    rw [shape, List.length_cons] at short
    omega

theorem append_zeros (ds : List Char) :
    ∃ zeros, ds = Binary64.dropZeros ds ++ List.replicate zeros '0' := by
  refine ⟨(ds.reverse.takeWhile (· == '0')).length, ?_⟩
  have zeros : ds.reverse.takeWhile (· == '0') = List.replicate (ds.reverse.takeWhile (· == '0')).length '0' :=
    List.eq_replicate_of_mem fun c member => by simpa using List.mem_takeWhile_imp member
  calc ds = ds.reverse.reverse := ds.reverse_reverse.symm
    _ = (ds.reverse.takeWhile (· == '0') ++ ds.reverse.dropWhile (· == '0')).reverse := by
      rw [List.takeWhile_append_dropWhile]
    _ = Binary64.dropZeros ds ++ (ds.reverse.takeWhile (· == '0')).reverse := List.reverse_append
    _ = _ := by rw [zeros, List.reverse_replicate, List.length_replicate]

/-- Digits that spell a number and the power of ten that the last one counts. -/
structure Spells (m : Nat) (p : Int) (ds : List Char) (point : Int) : Prop where
  some_digit : ds ≠ []
  digits : Digits ds
  leading : ds.head? ≠ some '0'
  value : (digitsValue ds : ℚ) * 10 ^ (point - ds.length) = m * 10 ^ p

theorem spells_dropZeros {m : Nat} (positive : 0 < m) (p : Int) :
    Spells m p (Binary64.dropZeros (Nat.toDigits 10 m)) ((Nat.toDigits 10 m).length + p) := by
  obtain ⟨zeros, whole⟩ := append_zeros (Nat.toDigits 10 m)
  have lengths := congrArg List.length whole
  rw [List.length_append, List.length_replicate] at lengths
  have values := congrArg digitsValue whole
  rw [digitsValue_toDigits, digitsValue_append, digitsValue_zeros, List.length_replicate, Nat.add_zero] at values
  have some_digit : Binary64.dropZeros (Nat.toDigits 10 m) ≠ [] := by
    intro none_left
    rw [none_left] at values
    simp [digitsValue] at values
    omega
  refine ⟨some_digit, fun c member => ?_, fun zero => ?_, ?_⟩
  · exact digits_toDigits m c (whole ▸ List.mem_append_left _ member)
  · refine head?_toDigits positive ?_
    rw [whole, List.head?_append_of_ne_nil _ some_digit]
    exact zero
  · have shown : (m : ℚ) = digitsValue (Binary64.dropZeros (Nat.toDigits 10 m)) * 10 ^ zeros := by exact_mod_cast values
    rw [lengths, shown, mul_assoc, ← zpow_natCast, ← zpow_add₀ (by norm_num)]
    congr 2
    push_cast
    ring

/-! ## The text of a number -/

/-- A spelled number with a point or an exponent means a decimal. -/
structure Means (s : Spelling) (x : ℚ) : Prop where
  wellFormed : s.WellFormed
  fractional : ¬ (s.fraction = [] ∧ s.exponent = none)
  value : (digitsValue (s.whole ++ s.fraction) : ℚ) * 10 ^ s.power = x

section

variable {m : Nat} {p point : Int} {ds : List Char}

/-- A number below one: the point, zeros and the digits. -/
theorem Spells.below (spells : Spells m p ds point) (small : point ≤ 0) :
    Means { whole := ['0'], fraction := List.replicate (-point).toNat '0' ++ ds } (m * 10 ^ p) where
  wellFormed :=
    { some_digit := by simp
      whole := by simp [Digits]
      leading := .inl rfl
      fraction := fun c member => by
        rcases List.mem_append.mp member with zero | digit
        · rw [List.eq_of_mem_replicate zero]
          rfl
        · exact spells.digits c digit
      exponent := by simp }
  fractional := by simp [spells.some_digit]
  value := by
    rw [← spells.value, digitsValue_append, digitsValue_append, digitsValue_zeros]
    have nothing : digitsValue ['0'] = 0 := by simp [digitsValue]
    have power : Spelling.power { whole := ['0'], fraction := List.replicate (-point).toNat '0' ++ ds } =
        point - ds.length := by
      simp only [Spelling.power, Spelling.exponentRead, List.length_append, List.length_replicate, digitsValue,
        List.foldl_nil]
      push_cast
      omega
    rw [nothing, power, Nat.zero_mul, Nat.zero_mul, Nat.zero_add, Nat.zero_add]

/-- A number with its last digit before the point, or as many zeros more. -/
theorem Spells.whole (spells : Spells m p ds point) (large : ds.length ≤ point) :
    Means { whole := ds ++ List.replicate (point.toNat - ds.length) '0', fraction := ['0'] } (m * 10 ^ p) where
  wellFormed :=
    { some_digit := by simp [spells.some_digit]
      whole := fun c member => by
        rcases List.mem_append.mp member with digit | zero
        · exact spells.digits c digit
        · rw [List.eq_of_mem_replicate zero]
          rfl
      leading := .inr (by
        rw [List.head?_append_of_ne_nil _ spells.some_digit]
        exact spells.leading)
      fraction := by simp [Digits]
      exponent := by simp }
  fractional := by simp
  value := by
    have power : Spelling.power { whole := ds ++ List.replicate (point.toNat - ds.length) '0', fraction := ['0'] } = -1 := by
      simp [Spelling.power, Spelling.exponentRead, digitsValue]
    have nothing : digitsValue ['0'] = 0 := by simp [digitsValue]
    have zeros : (10 : ℚ) ^ (point - ds.length) = 10 ^ (point.toNat - ds.length) := by
      rw [← zpow_natCast]
      congr 1
      omega
    rw [← spells.value, power, digitsValue_append, digitsValue_append, digitsValue_zeros, nothing, zeros]
    push_cast
    simp only [List.length_replicate, List.length_singleton]
    rw [zpow_neg_one]
    field_simp
    ring

/-- The digits of a number cut in two, so that there are some before the cut. -/
theorem Spells.cut (spells : Spells m p ds point) {k : Nat} (inside : k ≠ 0) :
    ds.take k ≠ [] ∧ Digits (ds.take k) ∧ (ds.take k).head? ≠ some '0' ∧ Digits (ds.drop k) := by
  refine ⟨?_, fun c member => spells.digits c (List.mem_of_mem_take member), ?_,
    fun c member => spells.digits c (List.mem_of_mem_drop member)⟩
  · rw [ne_eq, List.take_eq_nil_iff, not_or]
    exact ⟨inside, spells.some_digit⟩
  · rw [List.head?_take, if_neg inside]
    exact spells.leading

/-- A number with digits before and after the point. -/
theorem Spells.split (spells : Spells m p ds point) (above : 0 < point) (inside : point < ds.length) :
    Means { whole := ds.take point.toNat, fraction := ds.drop point.toNat } (m * 10 ^ p) where
  wellFormed := by
    obtain ⟨some_digit, whole, leading, fraction⟩ := spells.cut (by omega : point.toNat ≠ 0)
    exact ⟨some_digit, whole, .inr leading, fraction, by simp⟩
  fractional := by
    simp
    omega
  value := by
    have power : Spelling.power { whole := ds.take point.toNat, fraction := ds.drop point.toNat } = point - ds.length := by
      simp only [Spelling.power, Spelling.exponentRead, List.length_drop, digitsValue, List.foldl_nil]
      simp only [Bool.false_eq_true, ↓reduceIte]
      omega
    rw [← spells.value, power, List.take_append_drop]

/-- A number with one digit before the point and an exponent. -/
theorem Spells.scientific (spells : Spells m p ds point) {size : List Char} (some_size : size ≠ []) (digits : Digits size)
    (counts : digitsValue size = (point - 1).natAbs) :
    Means { whole := ds.take 1, fraction := ds.drop 1, exponent := some (decide (point - 1 < 0), size) } (m * 10 ^ p) where
  wellFormed := by
    obtain ⟨some_digit, whole, leading, fraction⟩ := spells.cut one_ne_zero
    refine ⟨some_digit, whole, .inr leading, fraction, ?_⟩
    rintro down ds ⟨⟩
    exact ⟨some_size, digits⟩
  fractional := by simp
  value := by
    have some_length := List.length_pos_iff.mpr spells.some_digit
    have power : Spelling.power { whole := ds.take 1, fraction := ds.drop 1, exponent := some (decide (point - 1 < 0), size) } =
        point - ds.length := by
      simp only [Spelling.power, Spelling.exponentRead, List.length_drop, counts, decide_eq_true_eq]
      split <;> omega
    rw [← spells.value, power, List.take_append_drop]

/-- An exponent is spelled by two digits at least. -/
theorem digits_padded (n : Nat) :
    let size := if (Nat.toDigits 10 n).length < 2 then '0' :: Nat.toDigits 10 n else Nat.toDigits 10 n
    size ≠ [] ∧ Digits size ∧ digitsValue size = n := by
  dsimp only
  split
  · refine ⟨List.cons_ne_nil _ _, List.forall_mem_cons.mpr ⟨rfl, digits_toDigits n⟩, ?_⟩
    rw [← List.singleton_append, digitsValue_append, digitsValue_toDigits]
    simp [digitsValue]
  · exact ⟨Nat.toDigits_ne_nil, digits_toDigits n, digitsValue_toDigits n⟩

/-- The text of a finite number other than zero means the digits found for it. -/
theorem finiteText_means {n : Nat} (positive : 0 < n) (finite : n < Binary64.infiniteMagnitude) :
    ∃ s : Spelling, Binary64.finiteText n = s.text ∧ 0 < digitsValue (s.whole ++ s.fraction) ∧
      Means s ((Binary64.shortest n).1 * 10 ^ (Binary64.shortest n).2) := by
  have rounds := Binary64.shortest_roundsTo positive finite
  have above : (0 : ℚ) < (Binary64.shortest n).1 * 10 ^ (Binary64.shortest n).2 :=
    lt_of_lt_of_le (by positivity) (rounds.bounds positive finite).1
  have some_digit : 0 < (Binary64.shortest n).1 := by
    rcases Nat.eq_zero_or_pos (Binary64.shortest n).1 with nothing | some_digit
    · rw [nothing] at above
      simp at above
    · exact some_digit
  suffices ∃ s : Spelling, Binary64.finiteText n = s.text ∧
      Means s ((Binary64.shortest n).1 * 10 ^ (Binary64.shortest n).2) by
    obtain ⟨s, text, means⟩ := this
    refine ⟨s, text, ?_, means⟩
    rcases Nat.eq_zero_or_pos (digitsValue (s.whole ++ s.fraction)) with nothing | positive
    · rw [← means.value, nothing] at above
      simp at above
    · exact positive
  unfold Binary64.finiteText
  rw [if_neg (by omega)]
  generalize Binary64.shortest n = found at some_digit ⊢
  obtain ⟨m, p⟩ := found
  dsimp only at some_digit ⊢
  have spells := spells_dropZeros some_digit p
  generalize ((Nat.toDigits 10 m).length + p : Int) = point at *
  generalize Binary64.dropZeros (Nat.toDigits 10 m) = ds at *
  have some_length := List.length_pos_iff.mpr spells.some_digit
  split
  · split
    · rename_i small
      refine ⟨_, ?_, spells.below small⟩
      simp [Spelling.text, Spelling.exponentText, spells.some_digit]
    · by_cases inside : point < ds.length
      · refine ⟨_, ?_, spells.split (by omega) inside⟩
        have some_more : ds.drop point.toNat ≠ [] := by
          rw [ne_eq, List.drop_eq_nil_iff]
          omega
        have full : point.toNat - ds.length = 0 := by omega
        simp [Spelling.text, Spelling.exponentText, some_more, full]
      · refine ⟨_, ?_, spells.whole (by omega)⟩
        have all : ds.take point.toNat = ds := List.take_of_length_le (by omega)
        have none_more : ds.drop point.toNat = [] := List.drop_eq_nil_of_le (by omega)
        simp [Spelling.text, Spelling.exponentText, all, none_more]
  · obtain ⟨some_size, digits, counts⟩ := digits_padded (point - 1).natAbs
    refine ⟨_, ?_, spells.scientific some_size digits counts⟩
    rw [Spelling.text, Spelling.exponentText]
    by_cases single : ds.length ≤ 1
    · have none_more : ds.drop 1 = [] := List.drop_eq_nil_of_le single
      simp [single, none_more]
    · have some_more : ds.tail ≠ [] := by
        rw [← List.drop_one, ne_eq, List.drop_eq_nil_iff]
        exact single
      simp [single, some_more]

end

/-! ## Numbers are read back -/

theorem number_finiteText {n : Nat} (finite : n < Binary64.infiniteMagnitude) {rest : List Char} (ends : Ends rest)
    (negative : Bool) (offset : Nat) :
    Cursor.number ⟨(if negative then ['-'] else []) ++ (Binary64.finiteText n ++ rest), offset⟩ =
      .ok (.real (Binary64.ofMagnitude negative n),
        ⟨rest, offset + ((if negative then ['-'] else []) ++ Binary64.finiteText n).length⟩) := by
  rcases Nat.eq_zero_or_pos n with rfl | positive
  · have wellFormed : Spelling.WellFormed { whole := ['0'], fraction := ['0'] } :=
      ⟨by simp, by simp [Digits], .inl rfl, by simp [Digits], by simp⟩
    have fractional : ¬ (['0'] = [] ∧ (none : Option (Bool × List Char)) = none) := by simp
    exact (number_text wellFormed ends negative offset).trans (if_neg fractional)
  · obtain ⟨s, text, some_digit, means⟩ := finiteText_means positive finite
    have rounds := Binary64.shortest_roundsTo positive finite
    rw [← means.value] at rounds
    rw [text, number_text means.wellFormed ends, if_neg means.fractional,
      Binary64.ofDecimal_of_roundsTo positive finite some_digit rounds]

/-- No constant begins with a digit, or with a digit after a sign. -/
theorem constants_of_digit {c : Char} (digit : c.isDigit = true) (negative : Bool) (more : List Char) :
    constants.find? (fun e => e.1.toList.isPrefixOf ((if negative then ['-'] else []) ++ c :: more)) = none := by
  rw [List.find?_eq_none]
  intro e member
  simp only [constants, List.mem_cons, List.not_mem_nil, or_false] at member
  rcases member with rfl | rfl | rfl | rfl | rfl | rfl <;> cases negative <;> simp
  all_goals
    rintro rfl
    exact absurd digit (by decide)

theorem finiteText_head {n : Nat} (finite : n < Binary64.infiniteMagnitude) :
    ∃ c more, Binary64.finiteText n = c :: more ∧ c.isDigit = true := by
  rcases Nat.eq_zero_or_pos n with rfl | positive
  · exact ⟨'0', _, rfl, rfl⟩
  · obtain ⟨s, text, _, means⟩ := finiteText_means positive finite
    obtain ⟨c, more, whole⟩ := List.exists_cons_of_ne_nil means.wellFormed.some_digit
    rw [text, Spelling.text, whole]
    exact ⟨c, _, rfl, means.wellFormed.whole c (whole ▸ List.mem_cons_self)⟩

/-- The numbers that there is a text for: of those that are no number, one. -/
def Canonical (x : Binary64) : Prop := x.magnitude ≤ Binary64.infiniteMagnitude ∨ x = Binary64.notANumber

theorem scalar_of_number {c : Char} (digit : c.isDigit = true) (negative : Bool) (more : List Char) (offset : Nat) :
    Cursor.scalar ⟨(if negative then ['-'] else []) ++ c :: more, offset⟩ =
      Cursor.number ⟨(if negative then ['-'] else []) ++ c :: more, offset⟩ := by
  have none_such := constants_of_digit digit negative more
  unfold Cursor.scalar
  split
  · rename_i found
    cases none_such.symm.trans found
  · rfl

/-- The text of a number is read back. -/
theorem scalar_real {x : Binary64} (canonical : Canonical x) {rest : List Char} (ends : Ends rest) (offset : Nat) :
    Cursor.scalar ⟨(x.text "Infinity" "NaN").toList ++ rest, offset⟩ =
      .ok (.real x, ⟨rest, offset + (x.text "Infinity" "NaN").toList.length⟩) := by
  have itself := Binary64.ofMagnitude_magnitude x
  unfold Binary64.text
  dsimp only
  split
  · rename_i finite
    obtain ⟨c, more, text, digit⟩ := finiteText_head finite
    have shape : ((if x.isNegative then "-" else "") ++ String.ofList (Binary64.finiteText x.magnitude)).toList =
        (if x.isNegative then ['-'] else []) ++ Binary64.finiteText x.magnitude := by
      rw [String.toList_append, String.toList_ofList]
      cases x.isNegative <;> rfl
    have read := number_finiteText finite ends x.isNegative offset
    rw [itself] at read
    rw [shape, ← read, List.append_assoc, text, List.cons_append, scalar_of_number digit]
  · rename_i large
    rcases canonical with bounded | rfl
    · have infinite : x.magnitude = Binary64.infiniteMagnitude := by omega
      rw [if_pos infinite]
      rw [infinite] at itself
      cases negative : x.isNegative with
      | true =>
        rw [negative] at itself
        rw [← itself]
        rfl
      | false =>
        rw [negative] at itself
        rw [← itself]
        rfl
    · rw [if_neg (by decide)]
      rfl

/-- The text of a whole number is read back, unless it has too many digits. -/
theorem scalar_int {n : Int} (short : n.natAbs < 10 ^ digitLimit) {rest : List Char} (ends : Ends rest) (offset : Nat) :
    Cursor.scalar ⟨(decimalInt n).toList ++ rest, offset⟩ =
      .ok (.int n, ⟨rest, offset + (decimalInt n).toList.length⟩) := by
  have sign : (decimalInt n).toList = (if decide (n < 0) then ['-'] else []) ++ Nat.toDigits 10 n.natAbs := by
    cases n with
    | ofNat m =>
      rw [decimalInt, toList_decimal, if_neg (by simp)]
      rfl
    | negSucc m =>
      rw [decimalInt, String.toList_append, toList_decimal, if_pos (by simp)]
      rfl
  have wellFormed : Spelling.WellFormed { whole := Nat.toDigits 10 n.natAbs } := by
    refine ⟨Nat.toDigits_ne_nil, digits_toDigits _, ?_, by simp [Digits], by simp⟩
    rcases Nat.eq_zero_or_pos n.natAbs with nothing | positive
    · rw [nothing]
      exact .inl rfl
    · exact .inr (head?_toDigits positive)
  have limited : (Nat.toDigits 10 n.natAbs).length ≤ digitLimit :=
    (Nat.length_toDigits_le_iff (by norm_num) (by decide)).mpr short
  have few : ¬ 4300 < (Nat.toDigits 10 n.natAbs).length := not_lt.mpr limited
  have read := number_text wellFormed ends (decide (n < 0)) offset
  simp only [Spelling.text, Spelling.exponentText, List.isEmpty_nil, ↓reduceIte, List.append_nil, and_self, if_neg few,
    digitsValue_toDigits] at read
  obtain ⟨c, more, digits⟩ := List.exists_cons_of_ne_nil (Nat.toDigits_ne_nil (b := 10) (n := n.natAbs))
  have digit : c.isDigit = true := digits_toDigits n.natAbs c (digits ▸ List.mem_cons_self)
  have value : (if decide (n < 0) = true then -(n.natAbs : Int) else n.natAbs) = n := by
    simp only [decide_eq_true_eq]
    split <;> omega
  rw [value] at read
  rw [sign, List.append_assoc, ← read, digits, List.cons_append, scalar_of_number digit]

end Diagnosis.Json
