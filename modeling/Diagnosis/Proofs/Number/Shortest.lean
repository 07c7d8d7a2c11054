import Mathlib.Data.Nat.Cast.Order.Field
import Diagnosis.Proofs.Number.Nearest

/-!
# Shortest decimals

The fewest digits that are found for a magnitude round to it: on the way to finer grids one
comes on which the distance to the number is less than half a unit in the last place.
-/

namespace Diagnosis.Number.Binary64

/-- What is found on a grid rounds to the number. -/
theorem holds_of_onGrid? {i : Interval} {p : Int} {b : Nat} (found : i.onGrid? p = some b) :
    i.holds (b * Nat.pow 10 p.toNat) (Nat.pow 10 (-p).toNat) = true := by
  unfold Interval.onGrid? at found
  dsimp only at found
  split at found
  · rename_i both
    rw [Bool.and_eq_true] at both
    split at found
    · cases found
      exact both.1
    · cases found
      exact both.2
  · split at found
    · rename_i down
      cases found
      exact down
    · split at found
      · rename_i up
        cases found
        exact up
      · cases found

/-- If the grid point below the number rounds to it, something is found on the grid. -/
theorem onGrid?_isSome {i : Interval} {p : Int}
    (down : i.holds (i.value * Nat.pow 10 (-p).toNat / (i.denominator * Nat.pow 10 p.toNat) * Nat.pow 10 p.toNat)
      (Nat.pow 10 (-p).toNat) = true) : (i.onGrid? p).isSome = true := by
  unfold Interval.onGrid?
  dsimp only
  split
  · split <;> rfl
  · rfl

/-- Something is found if it is on one of the grids that are tried. -/
theorem shortestFrom_holds {i : Interval} {p : Int} {fuel j : Nat} (tried : j < fuel)
    (there : (i.onGrid? (p - j)).isSome = true) :
    i.holds ((i.shortestFrom p fuel).1 * Nat.pow 10 (i.shortestFrom p fuel).2.toNat)
      (Nat.pow 10 (-(i.shortestFrom p fuel).2).toNat) = true := by
  induction fuel generalizing p j with
  | zero => omega
  | succ fuel ih =>
    unfold Interval.shortestFrom
    cases found : i.onGrid? p with
    | some b => exact holds_of_onGrid? found
    | none =>
      cases j with
      | zero =>
        rw [Nat.cast_zero, sub_zero, found] at there
        cases there
      | succ j =>
        refine ih (j := j) (by omega) ?_
        rw [show p - 1 - (j : Int) = p - (j + 1 : Nat) by push_cast; ring]
        exact there

theorem interval_ratio (n : Nat) :
    ((interval n).value : ℚ) / (interval n).denominator = 4 * (parts n).1 * 2 ^ ((parts n).2 - 2) := by
  have shift := pow_toNat (b := 2) (by norm_num) ((parts n).2 - 2)
  rw [neg_sub] at shift
  change ((4 * (parts n).1 * 2 ^ ((parts n).2 - 2).toNat : Nat) : ℚ) / ((2 ^ (2 - (parts n).2).toNat : Nat) : ℚ) = _
  push_cast
  rw [shift, ← mul_assoc, mul_div_assoc, div_self (by positivity), mul_one]

/-- A quotient is no less than the power of ten that the number of its digits tells. -/
theorem pow_decimalSize_le {a b : Nat} (positive : 0 < a) (divides : 0 < b) :
    (10 : ℚ) ^ (decimalSize a b - 1) ≤ a / b := by
  have numerator : (0 : ℚ) < a := by exact_mod_cast positive
  have divisor : (0 : ℚ) < b := by exact_mod_cast divides
  unfold decimalSize
  split
  · rename_i large
    have whole : 0 < a / b := Nat.div_pos large divides
    obtain ⟨low, _⟩ := decimal_bounds whole 0
    rw [add_zero, zpow_zero, mul_one] at low
    exact low.trans (Nat.cast_div_le)
  · rename_i small
    have some_length : 0 < (Nat.toDigits 10 ((b - 1) / a)).length := List.length_pos_iff.mpr Nat.toDigits_ne_nil
    have high : (b - 1) / a < 10 ^ (Nat.toDigits 10 ((b - 1) / a)).length :=
      (Nat.length_toDigits_le_iff (by norm_num) some_length).mp (le_refl _)
    have whole : b ≤ 10 ^ (Nat.toDigits 10 ((b - 1) / a)).length * a := by
      have := (Nat.div_lt_iff_lt_mul positive).mp high
      omega
    have whole : (b : ℚ) ≤ 10 ^ (Nat.toDigits 10 ((b - 1) / a)).length * a := by exact_mod_cast whole
    dsimp only
    rw [show (1 - ((Nat.toDigits 10 ((b - 1) / a)).length : ℤ) - 1) = -((Nat.toDigits 10 ((b - 1) / a)).length : ℤ) by ring,
      zpow_neg, zpow_natCast, inv_le_iff_one_le_mul₀ (by positivity), div_mul_eq_mul_div, le_div_iff₀ divisor, one_mul,
      mul_comm]
    exact whole

/-- On a grid finer than a quarter of a unit in the last place, the point below the number rounds to it. -/
theorem onGrid?_of_fine {n : Nat} (positive : 0 < n) (finite : n < infiniteMagnitude) {p : Int}
    (fine : (10 : ℚ) ^ p ≤ 2 ^ ((parts n).2 - 2)) : ((interval n).onGrid? p).isSome = true := by
  have divides : 0 < (interval n).denominator := Nat.pow_pos (by norm_num)
  have grid := pow_toNat (b := 10) (by norm_num) p
  have places : 0 < Nat.pow 10 (-p).toNat := Nat.pow_pos (by norm_num)
  have unit : 0 < (interval n).denominator * Nat.pow 10 p.toNat := Nat.mul_pos divides (Nat.pow_pos (by norm_num))
  refine onGrid?_isSome ((interval_holds_iff positive finite places).mpr ?_)
  obtain ⟨gap_pos, _⟩ := gapBelow_le n
  have gap : (1 : ℚ) ≤ gapBelow n := by exact_mod_cast gap_pos
  have scale : (0 : ℚ) < 2 ^ ((parts n).2 - 2) := by positivity
  have tens : (0 : ℚ) < 10 ^ p := by positivity
  -- the grid point is at most one step of the grid below the number
  have divisor : (0 : ℚ) < ((interval n).denominator * Nat.pow 10 p.toNat : Nat) := by exact_mod_cast unit
  have quotient : (((interval n).value * Nat.pow 10 (-p).toNat : Nat) : ℚ) /
      ((interval n).denominator * Nat.pow 10 p.toNat : Nat) = 4 * (parts n).1 * 2 ^ ((parts n).2 - 2) / 10 ^ p := by
    rw [← interval_ratio]
    simp only [Nat.pow_eq]
    push_cast
    rw [grid]
    field_simp
  have down : ((interval n).value * Nat.pow 10 (-p).toNat / ((interval n).denominator * Nat.pow 10 p.toNat) : Nat) ≤
      4 * (parts n).1 * (2 : ℚ) ^ ((parts n).2 - 2) / 10 ^ p := by
    rw [← quotient]
    exact Nat.cast_div_le
  have up : 4 * (parts n).1 * (2 : ℚ) ^ ((parts n).2 - 2) / 10 ^ p <
      ((interval n).value * Nat.pow 10 (-p).toNat / ((interval n).denominator * Nat.pow 10 p.toNat) : Nat) + 1 := by
    rw [← quotient, div_lt_iff₀ divisor, mul_comm (_ + 1 : ℚ)]
    exact_mod_cast Nat.lt_mul_div_succ _ unit
  generalize (interval n).value * Nat.pow 10 (-p).toNat / ((interval n).denominator * Nat.pow 10 p.toNat) = a at *
  have point : ((a * Nat.pow 10 p.toNat : Nat) : ℚ) / (Nat.pow 10 (-p).toNat : Nat) = a * 10 ^ p := by
    simp only [Nat.pow_eq]
    push_cast
    rw [grid]
    field_simp
  rw [le_div_iff₀ tens] at down
  rw [div_lt_iff₀ tens] at up
  rw [point]
  have above : (4 * (parts n).1 - gapBelow n) * (2 : ℚ) ^ ((parts n).2 - 2) < a * 10 ^ p := by nlinarith
  have below : a * (10 : ℚ) ^ p < (4 * (parts n).1 + 2) * 2 ^ ((parts n).2 - 2) := by linarith
  exact ⟨above.le, below.le, fun _ => ⟨above, below⟩⟩

/-- The digits found for a magnitude round to it. -/
theorem shortest_roundsTo {n : Nat} (positive : 0 < n) (finite : n < infiniteMagnitude) :
    RoundsTo n ((shortest n).1 * 10 ^ (shortest n).2) := by
  have some_part := parts_fst_pos positive finite
  have small : (parts n).1 < 2 ^ 53 := by
    rcases parts_cases positive finite with ⟨same, small⟩ | ⟨_, _, _, _, high, _⟩
    · rw [same]
      exact small.trans (by norm_num)
    · exact high
  have value : 0 < (interval n).value := by
    change 0 < 4 * (parts n).1 * Nat.pow 2 ((parts n).2 - 2).toNat
    exact Nat.mul_pos (by omega) (Nat.pow_pos (by norm_num))
  have low := pow_decimalSize_le value (b := (interval n).denominator) (Nat.pow_pos (by norm_num))
  rw [interval_ratio] at low
  have size : ((parts n).1 : ℚ) ≤ 2 ^ 53 := by exact_mod_cast small.le
  have scale : (0 : ℚ) < 2 ^ ((parts n).2 - 2) := by positivity
  have fine : (10 : ℚ) ^ (decimalSize (interval n).value (interval n).denominator - 1 - (17 : Nat)) ≤
      2 ^ ((parts n).2 - 2) := by
    rw [zpow_sub₀ (by norm_num), zpow_natCast, div_le_iff₀ (by positivity)]
    refine low.trans ?_
    rw [mul_comm (2 ^ ((parts n).2 - 2) : ℚ)]
    refine mul_le_mul_of_nonneg_right ?_ scale.le
    calc 4 * ((parts n).1 : ℚ) ≤ 4 * 2 ^ 53 := by linarith
      _ ≤ 10 ^ 17 := by norm_num
  have holds : (interval n).holds ((shortest n).1 * Nat.pow 10 (shortest n).2.toNat)
      (Nat.pow 10 (-(shortest n).2).toNat) = true :=
    shortestFrom_holds (j := 17) (by norm_num) (onGrid?_of_fine positive finite fine)
  have grid := pow_toNat (b := 10) (by norm_num) (shortest n).2
  have point : (((shortest n).1 * Nat.pow 10 (shortest n).2.toNat : Nat) : ℚ) / (Nat.pow 10 (-(shortest n).2).toNat : Nat) =
      (shortest n).1 * 10 ^ (shortest n).2 := by
    simp only [Nat.pow_eq]
    push_cast
    rw [grid]
    field_simp
  rw [← point]
  exact (interval_holds_iff positive finite (Nat.pow_pos (by norm_num))).mp holds

end Diagnosis.Number.Binary64
