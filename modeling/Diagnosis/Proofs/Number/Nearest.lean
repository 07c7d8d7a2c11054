import Mathlib.Algebra.Order.Field.Power
import Mathlib.Algebra.Order.Field.Rat
import Mathlib.Tactic.FieldSimp
import Mathlib.Tactic.Linarith
import Mathlib.Tactic.NormNum
import Mathlib.Tactic.Positivity
import Mathlib.Tactic.Ring
import Diagnosis.Number.Binary64

/-!
# Rounding to binary floating-point numbers

A rational number rounds to a magnitude if it is no more than half a unit in the last place
away from its number, and less than that if the number is odd. Quotients are rounded to the
magnitude that they round to in this sense, and so are decimals.
-/

namespace Diagnosis.Number.Binary64

/-- Moving a power to the other side of a quotient of powers of natural exponents. -/
theorem pow_toNat {b : ℚ} (nonzero : b ≠ 0) (k : ℤ) : b ^ k.toNat = b ^ k * b ^ (-k).toNat := by
  rcases le_total 0 k with up | down
  · have flat : (-k).toNat = 0 := by omega
    rw [flat, pow_zero, mul_one, ← zpow_natCast, Int.toNat_of_nonneg up]
  · have flat : k.toNat = 0 := by omega
    rw [flat, pow_zero, ← zpow_natCast, Int.toNat_of_nonneg (by omega), ← zpow_add₀ nonzero, add_neg_cancel, zpow_zero]

/-! ## Numbers that round to a magnitude -/

/-- How far below its number, in quarters of the last place, the numbers begin that round to a magnitude. -/
def gapBelow (n : Nat) : Nat := if (parts n).1 = Nat.pow 2 52 ∧ -1074 < (parts n).2 then 1 else 2

/-- A number rounds to a magnitude. -/
def RoundsTo (n : Nat) (x : ℚ) : Prop :=
  let unit : ℚ := 2 ^ ((parts n).2 - 2)
  (4 * (parts n).1 - gapBelow n) * unit ≤ x ∧ x ≤ (4 * (parts n).1 + 2) * unit ∧
    ((parts n).1 % 2 = 1 → (4 * (parts n).1 - gapBelow n) * unit < x ∧ x < (4 * (parts n).1 + 2) * unit)

theorem gapBelow_le (n : Nat) : 1 ≤ gapBelow n ∧ gapBelow n ≤ 2 := by
  unfold gapBelow
  split <;> omega

/-- What is known about the parts of a magnitude. -/
theorem parts_cases {n : Nat} (positive : 0 < n) (finite : n < infiniteMagnitude) :
    (parts n = (n, -1074) ∧ n < 2 ^ 52) ∨
      ∃ e : Nat, e < 2046 ∧ (parts n).2 = e - 1074 ∧ 2 ^ 52 ≤ (parts n).1 ∧ (parts n).1 < 2 ^ 53 ∧
        n = e * 2 ^ 52 + (parts n).1 := by
  unfold parts
  simp only [Nat.pow_eq, infiniteMagnitude] at *
  split
  · rename_i small
    exact .inl ⟨rfl, small⟩
  · rename_i large
    right
    refine ⟨n / 2 ^ 52 - 1, by omega, ?_, ?_, ?_, ?_⟩ <;> dsimp only <;> omega

theorem parts_fst_pos {n : Nat} (positive : 0 < n) (finite : n < infiniteMagnitude) : 0 < (parts n).1 := by
  rcases parts_cases positive finite with ⟨same, _⟩ | ⟨_, _, _, low, _, _⟩
  · rw [same]
    exact positive
  · exact lt_of_lt_of_le (by norm_num) low

/-- A quotient is compared with another one by its numerator, once both have a denominator in common. -/
theorem mul_le_mul_iff_le_div {bound unit a b : Nat} {y : ℚ} (divides : 0 < b) (fine : 0 < unit)
    (same : (bound : ℚ) = y * unit) : bound * b ≤ a * unit ↔ y ≤ a / b := by
  have divisor : (0 : ℚ) < b := by exact_mod_cast divides
  have scale : (0 : ℚ) < unit := by exact_mod_cast fine
  rw [le_div_iff₀ divisor, ← mul_le_mul_iff_left₀ scale, ← @Nat.cast_le ℚ]
  push_cast
  rw [same]
  ring_nf

theorem mul_lt_mul_iff_lt_div {bound unit a b : Nat} {y : ℚ} (divides : 0 < b) (fine : 0 < unit)
    (same : (bound : ℚ) = y * unit) : bound * b < a * unit ↔ y < a / b := by
  have divisor : (0 : ℚ) < b := by exact_mod_cast divides
  have scale : (0 : ℚ) < unit := by exact_mod_cast fine
  rw [lt_div_iff₀ divisor, ← mul_lt_mul_iff_left₀ scale, ← @Nat.cast_lt ℚ]
  push_cast
  rw [same]
  ring_nf

/-- The interval of a magnitude holds the quotients that round to it. -/
theorem interval_holds_iff {n a b : Nat} (positive : 0 < n) (finite : n < infiniteMagnitude) (divides : 0 < b) :
    (interval n).holds a b = true ↔ RoundsTo n (a / b) := by
  have some_part := parts_fst_pos positive finite
  obtain ⟨gap_pos, gap_le⟩ := gapBelow_le n
  have fine : 0 < (interval n).denominator := Nat.pow_pos (by norm_num)
  have shift := pow_toNat (b := 2) (by norm_num) ((parts n).2 - 2)
  rw [neg_sub] at shift
  have denominator : ((interval n).denominator : ℚ) = 2 ^ (2 - (parts n).2).toNat := by
    change ((2 ^ (2 - (parts n).2).toNat : Nat) : ℚ) = _
    push_cast
    ring
  have lower : ((interval n).lower : ℚ) =
      (4 * (parts n).1 - gapBelow n) * 2 ^ ((parts n).2 - 2) * (interval n).denominator := by
    have enough : gapBelow n ≤ 4 * (parts n).1 := by omega
    rw [denominator, mul_assoc, ← shift]
    change (((4 * (parts n).1 - gapBelow n) * 2 ^ ((parts n).2 - 2).toNat : Nat) : ℚ) = _
    rw [Nat.cast_mul, Nat.cast_sub enough]
    push_cast
    ring
  have upper : ((interval n).upper : ℚ) =
      (4 * (parts n).1 + 2) * 2 ^ ((parts n).2 - 2) * (interval n).denominator := by
    rw [denominator, mul_assoc, ← shift]
    change (((4 * (parts n).1 + 2) * 2 ^ ((parts n).2 - 2).toNat : Nat) : ℚ) = _
    push_cast
    ring
  have closed : (interval n).closed = decide ((parts n).1 % 2 = 0) := rfl
  have above_le := not_lt.symm.trans ((mul_lt_mul_iff_lt_div (a := a) divides fine upper).not.trans not_lt)
  have above_lt := not_le.symm.trans ((mul_le_mul_iff_le_div (a := a) divides fine upper).not.trans not_le)
  unfold Interval.holds RoundsTo
  rw [closed]
  rcases Nat.mod_two_eq_zero_or_one (parts n).1 with even | odd
  · simp only [even, decide_true, ↓reduceIte, Bool.decide_and, Bool.and_eq_true, decide_eq_true_eq,
      mul_le_mul_iff_le_div divides fine lower, above_le]
    simp
  · simp only [odd, one_ne_zero, decide_false, Bool.false_eq_true, ↓reduceIte, Bool.decide_and, Bool.and_eq_true,
      decide_eq_true_eq, mul_lt_mul_iff_lt_div divides fine lower, above_lt]
    constructor
    · rintro ⟨above, below⟩
      exact ⟨above.le, below.le, fun _ => ⟨above, below⟩⟩
    · rintro ⟨_, _, strict⟩
      exact strict trivial

/-! ## Rounding quotients -/

/-- A quotient is rounded to the whole number that it is no more than a half away from, and less than
that if the whole number is odd. -/
theorem nearest_eq {a b m : Nat} (divides : 0 < b) (lower : (2 * m : ℤ) * b - b ≤ 2 * a) (upper : 2 * a ≤ (2 * m + 1) * b)
    (strict : m % 2 = 1 → (2 * m : ℤ) * b - b < 2 * a ∧ 2 * a < (2 * m + 1) * b) : nearest a b = m := by
  have whole := Nat.div_add_mod a b
  have rest := Nat.mod_lt a divides
  unfold nearest
  generalize a / b = q at *
  generalize a % b = r at *
  subst whole
  have high : q ≤ m := by
    by_contra above
    have more : m + 1 ≤ q := by omega
    have : b * (m + 1) ≤ b * q := Nat.mul_le_mul_left b more
    nlinarith
  have low : m ≤ q + 1 := by
    by_contra below
    have fewer : q + 2 ≤ m := by omega
    have : b * (q + 2) ≤ b * m := Nat.mul_le_mul_left b fewer
    zify at *
    nlinarith
  dsimp only
  rcases (by omega : q = m ∨ m = q + 1) with rfl | rfl
  · rw [if_pos]
    by_cases odd : q % 2 = 1
    · left
      nlinarith [(strict odd).2]
    · have : 2 * r ≤ b := by nlinarith
      omega
  · rw [if_neg]
    push_cast at lower strict
    by_cases odd : (q + 1) % 2 = 1
    · have : b < 2 * r := by
        have := (strict odd).1
        zify
        nlinarith
      omega
    · have : b ≤ 2 * r := by
        zify
        nlinarith
      omega

theorem nearest_of_near {a b m : Nat} (divides : 0 < b) (lower : (m : ℚ) - 1 / 2 ≤ (a : ℚ) / b)
    (upper : (a : ℚ) / b ≤ m + 1 / 2) (strict : m % 2 = 1 → (m : ℚ) - 1 / 2 < (a : ℚ) / b ∧ (a : ℚ) / b < m + 1 / 2) :
    nearest a b = m := by
  have divisor : (0 : ℚ) < b := by exact_mod_cast divides
  rw [le_div_iff₀ divisor] at lower
  rw [div_le_iff₀ divisor] at upper
  rw [lt_div_iff₀ divisor, div_lt_iff₀ divisor] at strict
  refine nearest_eq divides ?_ ?_ fun odd => ⟨?_, ?_⟩
  · have : ((2 * m : ℤ) * b - b : ℚ) ≤ (2 * a : ℤ) := by push_cast; linarith
    exact_mod_cast this
  · have : (2 * a : ℚ) ≤ (2 * m + 1) * b := by linarith
    exact_mod_cast this
  · have : ((2 * m : ℤ) * b - b : ℚ) < (2 * a : ℤ) := by push_cast; linarith [(strict odd).1]
    exact_mod_cast this
  · have : (2 * a : ℚ) < (2 * m + 1) * b := by linarith [(strict odd).2]
    exact_mod_cast this

/-- A quotient divided by a power of two. -/
def scaledBy (a b : Nat) (k : Int) : Nat × Nat :=
  if 0 ≤ k then (a, b * Nat.pow 2 k.toNat) else (a * Nat.pow 2 (-k).toNat, b)

/-- The power of two that a quotient is divided by so that its whole part is a significand. -/
def exponentFor (a b : Nat) : Int :=
  let guess : Int := (a.log2 : Int) - b.log2 - 52
  max (-1074) (if (scaledBy a b guess).1 / (scaledBy a b guess).2 < Nat.pow 2 52 then guess - 1 else guess)

theorem magnitudeOf_eq (a b : Nat) :
    magnitudeOf a b = min infiniteMagnitude
      (let q := nearest (scaledBy a b (exponentFor a b)).1 (scaledBy a b (exponentFor a b)).2
       if q < Nat.pow 2 52 then q else (exponentFor a b + 1074).toNat * Nat.pow 2 52 + q) := by
  unfold magnitudeOf exponentFor scaledBy
  simp only [decide_eq_true_eq]

theorem scaledBy_pos {a b : Nat} (divides : 0 < b) (k : Int) : 0 < (scaledBy a b k).2 := by
  unfold scaledBy
  split
  · exact Nat.mul_pos divides (Nat.pow_pos (by norm_num))
  · exact divides

theorem scaledBy_ratio (a b : Nat) (k : Int) :
    ((scaledBy a b k).1 : ℚ) / (scaledBy a b k).2 = a / b * 2 ^ (-k) := by
  unfold scaledBy
  split
  · rename_i up
    have power : (2 : ℚ) ^ (-k) = ((2 : ℚ) ^ k.toNat)⁻¹ := by
      rw [zpow_neg, ← zpow_natCast, Int.toNat_of_nonneg up]
    rw [power]
    simp only [Nat.pow_eq]
    push_cast
    rw [div_mul_eq_div_div, div_eq_mul_inv (_ / _)]
  · rename_i down
    have power : (2 : ℚ) ^ (-k) = (2 : ℚ) ^ (-k).toNat := by
      rw [← zpow_natCast, Int.toNat_of_nonneg (by omega)]
    rw [power]
    simp only [Nat.pow_eq]
    push_cast
    ring

/-- A quotient lies between the powers of two that its exponent tells, unless it is too small. -/
theorem exponentFor_spec {a b : Nat} (positive : 0 < a) (divides : 0 < b) :
    ∃ k, exponentFor a b = max (-1074) k ∧ (2 : ℚ) ^ (k + 52) ≤ a / b ∧ (a : ℚ) / b < 2 ^ (k + 53) := by
  have divisor : (0 : ℚ) < b := by exact_mod_cast divides
  have low_a : ((2 ^ a.log2 : Nat) : ℚ) ≤ a := by exact_mod_cast Nat.log2_self_le (by omega)
  have high_a : (a : ℚ) < ((2 ^ (a.log2 + 1) : Nat) : ℚ) := by exact_mod_cast Nat.lt_log2_self
  have low_b : ((2 ^ b.log2 : Nat) : ℚ) ≤ b := by exact_mod_cast Nat.log2_self_le (by omega)
  have high_b : (b : ℚ) < ((2 ^ (b.log2 + 1) : Nat) : ℚ) := by exact_mod_cast Nat.lt_log2_self
  push_cast at low_a high_a low_b high_b
  have two : (2 : ℚ) ≠ 0 := by norm_num
  set guess : Int := (a.log2 : Int) - b.log2 - 52 with guessed
  have least : (2 : ℚ) ^ (guess + 51) ≤ a / b := by
    have shape : (2 : ℚ) ^ (guess + 51) = 2 ^ a.log2 / 2 ^ (b.log2 + 1) := by
      rw [← zpow_natCast, ← zpow_natCast, ← zpow_sub₀ two]
      congr 1
      push_cast
      omega
    rw [shape]
    exact div_le_div₀ (by positivity) low_a divisor high_b.le
  have most : (a : ℚ) / b < 2 ^ (guess + 53) := by
    have shape : (2 : ℚ) ^ (guess + 53) = 2 ^ (a.log2 + 1) / 2 ^ b.log2 := by
      rw [← zpow_natCast, ← zpow_natCast, ← zpow_sub₀ two]
      congr 1
      push_cast
      omega
    rw [shape]
    exact div_lt_div₀ high_a low_b (by positivity) (by positivity)
  have half : (scaledBy a b guess).1 / (scaledBy a b guess).2 < Nat.pow 2 52 ↔ (a : ℚ) / b < 2 ^ (guess + 52) := by
    have divides' : (0 : ℚ) < (scaledBy a b guess).2 := by exact_mod_cast scaledBy_pos divides guess
    rw [Nat.div_lt_iff_lt_mul (scaledBy_pos divides guess), ← @Nat.cast_lt ℚ]
    simp only [Nat.pow_eq]
    push_cast
    rw [← div_lt_iff₀ divides', scaledBy_ratio, zpow_neg, ← div_eq_mul_inv, div_lt_iff₀ (by positivity), add_comm guess,
      zpow_add₀ two]
    norm_num
  rw [exponentFor]
  by_cases small : (a : ℚ) / b < 2 ^ (guess + 52)
  · refine ⟨guess - 1, by rw [if_pos (half.mpr small)], ?_, ?_⟩
    · rw [show guess - 1 + 52 = guess + 51 by ring]
      exact least
    · rw [show guess - 1 + 53 = guess + 52 by ring]
      exact small
  · exact ⟨guess, by rw [if_neg (fun holds => small (half.mp holds))], not_lt.mp small, most⟩

/-- With the exponent of a magnitude, quotients that round to it have its significand. -/
theorem nearest_scaledBy {n a b : Nat} (divides : 0 < b) (rounds : RoundsTo n (a / b)) :
    nearest (scaledBy a b (parts n).2).1 (scaledBy a b (parts n).2).2 = (parts n).1 := by
  obtain ⟨lower, upper, strict⟩ := rounds
  obtain ⟨_, gap_le⟩ := gapBelow_le n
  have gap : (gapBelow n : ℚ) ≤ 2 := by exact_mod_cast gap_le
  have unit : (2 : ℚ) ^ (parts n).2 = 4 * 2 ^ ((parts n).2 - 2) := by
    rw [zpow_sub₀ (by norm_num)]
    norm_num
    ring
  have scale : (0 : ℚ) < 2 ^ ((parts n).2 - 2) := by positivity
  have ratio : ((scaledBy a b (parts n).2).1 : ℚ) / (scaledBy a b (parts n).2).2 =
      a / b / (4 * 2 ^ ((parts n).2 - 2)) := by
    rw [scaledBy_ratio, zpow_neg, ← div_eq_mul_inv, unit]
  refine nearest_of_near (scaledBy_pos divides _) ?_ ?_ fun odd => ⟨?_, ?_⟩
  · rw [ratio, le_div_iff₀ (by positivity)]
    nlinarith
  · rw [ratio, div_le_iff₀ (by positivity)]
    nlinarith
  · rw [ratio, lt_div_iff₀ (by positivity)]
    nlinarith [(strict odd).1]
  · rw [ratio, div_lt_iff₀ (by positivity)]
    nlinarith [(strict odd).2]

theorem two_pow_parts (n j : Nat) : (2 : ℚ) ^ ((parts n).2 + j) = 2 ^ (j + 2) * 2 ^ ((parts n).2 - 2) := by
  rw [← zpow_natCast, ← zpow_add₀ (by norm_num)]
  congr 1
  push_cast
  ring

/-- What rounds to a magnitude is below every power of two that its significand is below. -/
theorem RoundsTo.lt_two_pow {n j : Nat} {x : ℚ} (rounds : RoundsTo n x) (high : (parts n).1 < 2 ^ j) :
    x < 2 ^ ((parts n).2 + j) := by
  have size : ((parts n).1 : ℚ) + 1 ≤ 2 ^ j := by exact_mod_cast high
  rw [two_pow_parts, pow_add]
  refine lt_of_le_of_lt rounds.2.1 (mul_lt_mul_of_pos_right ?_ (by positivity))
  norm_num
  linarith

/-- What rounds to a magnitude is below the least number with its exponent only if its significand is the
least one. -/
theorem RoundsTo.edge {n : Nat} {x : ℚ} (rounds : RoundsTo n x) (low : 2 ^ 52 ≤ (parts n).1)
    (less : x < 2 ^ ((parts n).2 + (52 : ℕ))) : (parts n).1 = 2 ^ 52 := by
  have gap : (gapBelow n : ℚ) ≤ 2 := by exact_mod_cast (gapBelow_le n).2
  have scale : (0 : ℚ) < 2 ^ ((parts n).2 - 2) := by positivity
  rw [two_pow_parts] at less
  have quarters := lt_of_mul_lt_mul_right (rounds.1.trans_lt less) scale.le
  norm_num only at quarters
  have next : ((parts n).1 : ℚ) < 2 ^ 52 + 1 := by linarith only [quarters, gap]
  have next : (parts n).1 < 2 ^ 52 + 1 := by exact_mod_cast next
  omega

section Edge

variable {n a b : Nat} (edge : (parts n).1 = 2 ^ 52) (gap : gapBelow n = 1)

include edge gap

theorem RoundsTo.two_pow_le {x : ℚ} (rounds : RoundsTo n x) : (2 : ℚ) ^ ((parts n).2 - 1 + 52) ≤ x := by
  have unit : (2 : ℚ) ^ ((parts n).2 - 1 + 52) = 2 ^ 53 * 2 ^ ((parts n).2 - 2) := by
    rw [← zpow_natCast, ← zpow_add₀ (by norm_num)]
    congr 1
    push_cast
    ring
  rw [unit]
  refine le_trans (mul_le_mul_of_nonneg_right ?_ (by positivity)) rounds.1
  rw [edge, gap]
  norm_num

/-- A quotient that rounds to a power of two from below is rounded up to it with the exponent below. -/
theorem nearest_scaledBy_below (divides : 0 < b) (rounds : RoundsTo n (a / b))
    (less : (a : ℚ) / b < 2 ^ ((parts n).2 + (52 : ℕ))) :
    nearest (scaledBy a b ((parts n).2 - 1)).1 (scaledBy a b ((parts n).2 - 1)).2 = 2 ^ 53 := by
  obtain ⟨lower, _⟩ := rounds
  have ratio : ((scaledBy a b ((parts n).2 - 1)).1 : ℚ) / (scaledBy a b ((parts n).2 - 1)).2 =
      a / b / (2 * 2 ^ ((parts n).2 - 2)) := by
    rw [scaledBy_ratio, neg_sub, ← neg_sub, zpow_neg, ← div_eq_mul_inv]
    congr 1
    rw [show (parts n).2 - 1 = 1 + ((parts n).2 - 2) by ring, zpow_add₀ (by norm_num), zpow_one]
  rw [edge, gap] at lower
  rw [two_pow_parts] at less
  refine nearest_of_near (scaledBy_pos divides _) ?_ ?_ fun odd => absurd odd (by norm_num)
  · rw [ratio, le_div_iff₀ (by positivity)]
    push_cast at lower ⊢
    norm_num at lower ⊢
    linarith
  · rw [ratio, div_le_iff₀ (by positivity)]
    push_cast
    norm_num at less ⊢
    linarith

end Edge

/-- A quotient is rounded to the magnitude that it rounds to. -/
theorem magnitudeOf_of_roundsTo {n a b : Nat} (positive : 0 < n) (finite : n < infiniteMagnitude) (some_part : 0 < a)
    (divides : 0 < b) (rounds : RoundsTo n (a / b)) : magnitudeOf a b = n := by
  obtain ⟨k, chosen, above, below⟩ := exponentFor_spec some_part divides
  have two : (1 : ℚ) < 2 := by norm_num
  have scaled := nearest_scaledBy divides rounds
  rw [magnitudeOf_eq]
  simp only [Nat.pow_eq]
  rcases parts_cases positive finite with ⟨same, small⟩ | ⟨e, few, exponent, low, high, whole⟩
  · -- the least exponent
    have bound := rounds.lt_two_pow (j := 52) (by rw [same]; exact small)
    have fits := (zpow_lt_zpow_iff_right₀ two).mp (above.trans_lt bound)
    rw [same] at fits scaled
    push_cast at fits
    rw [chosen, max_eq_left (by omega), scaled, if_pos small]
    exact min_eq_right finite.le
  · have top := (zpow_lt_zpow_iff_right₀ two).mp (above.trans_lt (rounds.lt_two_pow high))
    push_cast at top
    by_cases same : max (-1074) k = (parts n).2
    · rw [chosen, same, scaled, if_neg (by omega)]
      have index : ((parts n).2 + 1074).toNat = e := by omega
      rw [index, ← whole]
      exact min_eq_right finite.le
    · -- the number is a power of two and the quotient is less
      have less : (a : ℚ) / b < 2 ^ ((parts n).2 + (52 : ℕ)) := by
        refine below.trans_le (zpow_le_zpow_right₀ two.le ?_)
        push_cast
        omega
      have edge := rounds.edge low less
      have gap : gapBelow n = 1 := by
        rw [gapBelow, if_pos ⟨edge, by omega⟩]
      have bottom := (zpow_lt_zpow_iff_right₀ two).mp ((rounds.two_pow_le edge gap).trans_lt below)
      have down : k = (parts n).2 - 1 := by omega
      rw [chosen, max_eq_right (by omega), down, nearest_scaledBy_below edge gap divides rounds less, if_neg (by norm_num)]
      have total : ((parts n).2 - 1 + 1074).toNat * 2 ^ 52 + 2 ^ 53 = n := by omega
      rw [total]
      exact min_eq_right finite.le

/-! ## Rounding decimals -/

/-- Numbers that round to a magnitude are neither too small nor too large. -/
theorem RoundsTo.bounds {n : Nat} {x : ℚ} (rounds : RoundsTo n x) (positive : 0 < n) (finite : n < infiniteMagnitude) :
    (2 : ℚ) ^ (-1075 : ℤ) ≤ x ∧ x ≤ 2 ^ (1024 : ℤ) := by
  obtain ⟨lower, upper, _⟩ := rounds
  obtain ⟨_, gap_le⟩ := gapBelow_le n
  have gap : (gapBelow n : ℚ) ≤ 2 := by exact_mod_cast gap_le
  have some_part : (1 : ℚ) ≤ (parts n).1 := by exact_mod_cast parts_fst_pos positive finite
  have range : -1074 ≤ (parts n).2 ∧ (parts n).2 ≤ 971 ∧ (parts n).1 < 2 ^ 53 := by
    rcases parts_cases positive finite with ⟨same, small⟩ | ⟨e, few, exponent, low, high, whole⟩
    · rw [same]
      exact ⟨le_refl _, by norm_num, by dsimp only; omega⟩
    · exact ⟨by omega, by omega, high⟩
  obtain ⟨least, most, high⟩ := range
  have size : ((parts n).1 : ℚ) + 1 ≤ 2 ^ 53 := by exact_mod_cast high
  have two : (1 : ℚ) ≤ 2 := by norm_num
  constructor
  · have scale : (2 : ℚ) ^ (-1074 - 2 : ℤ) ≤ 2 ^ ((parts n).2 - 2) := zpow_le_zpow_right₀ two (by omega)
    calc (2 : ℚ) ^ (-1075 : ℤ) = 2 * 2 ^ (-1074 - 2 : ℤ) := by
          rw [← zpow_one_add₀ (two_ne_zero' ℚ)]
          norm_num
      _ ≤ 2 * 2 ^ ((parts n).2 - 2) := by linarith
      _ ≤ (4 * (parts n).1 - gapBelow n) * 2 ^ ((parts n).2 - 2) :=
        mul_le_mul_of_nonneg_right (by linarith) (by positivity)
      _ ≤ x := lower
  · have scale : (2 : ℚ) ^ ((parts n).2 - 2) ≤ 2 ^ (971 - 2 : ℤ) := zpow_le_zpow_right₀ two (by omega)
    calc x ≤ (4 * (parts n).1 + 2) * 2 ^ ((parts n).2 - 2) := upper
      _ ≤ 2 ^ 55 * 2 ^ ((parts n).2 - 2) := mul_le_mul_of_nonneg_right (by linarith only [size]) (by positivity)
      _ ≤ 2 ^ 55 * 2 ^ (971 - 2 : ℤ) := by linarith
      _ = 2 ^ (1024 : ℤ) := by
        rw [← zpow_natCast, ← zpow_add₀ (by norm_num)]
        norm_num

theorem two_pow_lt_ten_pow : (2 : ℚ) ^ 1075 < 10 ^ 400 := by
  calc (2 : ℚ) ^ 1075 = (2 ^ 43) ^ 25 := by rw [← pow_mul]
    _ < (10 ^ 16) ^ 25 := pow_lt_pow_left₀ (by norm_num) (by norm_num) (by norm_num)
    _ = 10 ^ 400 := by rw [← pow_mul]

/-- A decimal lies between the powers of ten that the number of its digits tells. -/
theorem decimal_bounds {digits : Nat} (some_digit : 0 < digits) (exponent : Int) :
    (10 : ℚ) ^ ((Nat.toDigits 10 digits).length + exponent - 1) ≤ digits * 10 ^ exponent ∧
      (digits : ℚ) * 10 ^ exponent < 10 ^ ((Nat.toDigits 10 digits).length + exponent) := by
  have some_length : 0 < (Nat.toDigits 10 digits).length := List.length_pos_iff.mpr Nat.toDigits_ne_nil
  have high : digits < 10 ^ (Nat.toDigits 10 digits).length :=
    (Nat.length_toDigits_le_iff (by norm_num) some_length).mp (le_refl _)
  have low : 10 ^ ((Nat.toDigits 10 digits).length - 1) ≤ digits := by
    by_contra below
    rcases Nat.eq_zero_or_pos ((Nat.toDigits 10 digits).length - 1) with single | several
    · rw [single] at below
      omega
    · have := (Nat.length_toDigits_le_iff (by norm_num) several).mpr (not_le.mp below)
      omega
  have scale : (0 : ℚ) < 10 ^ exponent := by positivity
  have high : (digits : ℚ) < 10 ^ (Nat.toDigits 10 digits).length := by exact_mod_cast high
  have low : (10 : ℚ) ^ ((Nat.toDigits 10 digits).length - 1) ≤ digits := by exact_mod_cast low
  constructor
  · have shape : ((Nat.toDigits 10 digits).length + exponent - 1 : ℤ) =
        ((Nat.toDigits 10 digits).length - 1 : Nat) + exponent := by omega
    rw [shape, zpow_add₀ (by norm_num), zpow_natCast]
    exact mul_le_mul_of_nonneg_right low scale.le
  · rw [zpow_add₀ (by norm_num), zpow_natCast]
    exact mul_lt_mul_of_pos_right high scale

/-- A decimal is rounded to the number whose magnitude it rounds to. -/
theorem ofDecimal_of_roundsTo {n digits : Nat} {exponent : Int} (positive : 0 < n) (finite : n < infiniteMagnitude)
    (some_digit : 0 < digits) (rounds : RoundsTo n (digits * 10 ^ exponent)) (negative : Bool) :
    ofDecimal negative digits exponent = ofMagnitude negative n := by
  obtain ⟨least, most⟩ := rounds.bounds positive finite
  obtain ⟨low, high⟩ := decimal_bounds some_digit exponent
  have ten : (1 : ℚ) < 10 := by norm_num
  have small : ¬ ((Nat.toDigits 10 digits).length + exponent : Int) < -400 := by
    intro tiny
    have less : (10 : ℚ) ^ ((Nat.toDigits 10 digits).length + exponent : ℤ) ≤ 10 ^ (-400 : ℤ) :=
      zpow_le_zpow_right₀ ten.le (by omega)
    have gap : (10 : ℚ) ^ (-400 : ℤ) < 2 ^ (-1075 : ℤ) := by
      rw [zpow_neg, zpow_neg]
      exact inv_strictAnti₀ (by positivity) (by exact_mod_cast two_pow_lt_ten_pow)
    exact absurd (least.trans (high.le.trans less)) (not_le.mpr gap)
  have large : ¬ 400 < ((Nat.toDigits 10 digits).length + exponent : Int) := by
    intro huge
    have more : (10 : ℚ) ^ (400 : ℤ) ≤ 10 ^ ((Nat.toDigits 10 digits).length + exponent - 1 : ℤ) :=
      zpow_le_zpow_right₀ ten.le (by omega)
    have gap : (2 : ℚ) ^ (1024 : ℤ) < 10 ^ (400 : ℤ) := by
      refine (zpow_le_zpow_right₀ (n := 1075) (by norm_num) (by norm_num)).trans_lt ?_
      exact_mod_cast two_pow_lt_ten_pow
    exact absurd (more.trans (low.trans most)) (not_le.mpr gap)
  unfold ofDecimal
  dsimp only
  rw [if_neg (by omega), if_neg large]
  split
  · rename_i up
    have ratio : ((digits * Nat.pow 10 exponent.toNat : Nat) : ℚ) / (1 : Nat) = digits * 10 ^ exponent := by
      simp only [Nat.pow_eq]
      push_cast
      rw [div_one, ← zpow_natCast, Int.toNat_of_nonneg up]
    have power : 0 < Nat.pow 10 exponent.toNat := Nat.pow_pos (by norm_num)
    rw [magnitudeOf_of_roundsTo positive finite (Nat.mul_pos some_digit power) one_pos (ratio ▸ rounds)]
  · rename_i down
    have ratio : (digits : ℚ) / (Nat.pow 10 (-exponent).toNat : Nat) = digits * 10 ^ exponent := by
      simp only [Nat.pow_eq]
      push_cast
      rw [← zpow_natCast, Int.toNat_of_nonneg (by omega), zpow_neg, div_inv_eq_mul]
    have power : 0 < Nat.pow 10 (-exponent).toNat := Nat.pow_pos (by norm_num)
    rw [magnitudeOf_of_roundsTo positive finite some_digit power (ratio ▸ rounds)]

theorem ofMagnitude_magnitude (x : Binary64) : ofMagnitude x.isNegative x.magnitude = x := by
  have bound := x.bits.toNat_lt
  obtain ⟨bits⟩ := x
  unfold ofMagnitude isNegative magnitude
  simp only [Nat.pow_eq, decide_eq_true_eq] at *
  congr 1
  apply UInt64.toNat.inj
  rw [UInt64.toNat_ofNat']
  split <;> omega

end Diagnosis.Number.Binary64
