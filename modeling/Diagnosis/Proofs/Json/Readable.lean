import Diagnosis.Proofs.Json.RoundTrip
import Diagnosis.Proofs.Result

/-!
# What a text gives

Every value that is read is one that can be written and read back: keys that come again take the
place of those before them, whole numbers with too many digits are refused, and numbers are
rounded to numbers that have a text.
-/

namespace Diagnosis.Json

open Diagnosis.Number Diagnosis.Text

theorem magnitude_ofMagnitude {n : Nat} (bounded : n ≤ Binary64.infiniteMagnitude) (negative : Bool) :
    (Binary64.ofMagnitude negative n).magnitude = n := by
  have small : n < 2 ^ 63 := bounded.trans_lt (by decide)
  unfold Binary64.magnitude Binary64.ofMagnitude
  rw [UInt64.toNat_ofNat']
  simp only [Nat.pow_eq]
  split <;> omega

theorem canonical_ofMagnitude {n : Nat} (bounded : n ≤ Binary64.infiniteMagnitude) (negative : Bool) :
    Canonical (Binary64.ofMagnitude negative n) :=
  .inl ((magnitude_ofMagnitude bounded negative).le.trans bounded)

theorem magnitudeOf_le (a b : Nat) : Binary64.magnitudeOf a b ≤ Binary64.infiniteMagnitude := by
  rw [Binary64.magnitudeOf_eq]
  exact Nat.min_le_left ..

/-- Decimals are rounded to numbers that have a text. -/
theorem canonical_ofDecimal (negative : Bool) (digits : Nat) (exponent : Int) :
    Canonical (Binary64.ofDecimal negative digits exponent) := by
  unfold Binary64.ofDecimal
  dsimp only
  split
  · exact canonical_ofMagnitude (Nat.zero_le _) negative
  · split
    · exact canonical_ofMagnitude (Nat.le_refl _) negative
    · split <;> exact canonical_ofMagnitude (magnitudeOf_le _ _) negative

theorem digits_wholeOf (cs : List Char) : Digits (wholeOf cs) := by
  intro c member
  unfold wholeOf at member
  split at member
  · rw [List.mem_singleton.mp member]
    rfl
  · exact List.mem_takeWhile_imp member

theorem number_proper {c c' : Cursor} {v : Value} (read : c.number = .ok (v, c')) : Proper v := by
  rw [number_eq] at read
  dsimp only at read
  generalize c.skip _ = after at read
  generalize exponentOf _ = exponent at read
  generalize fractionOf _ = fraction at read
  have whole := digits_wholeOf (signOf c.rest).2
  generalize wholeOf _ = ds at read whole
  split at read
  · cases read
  · split at read
    · split at read
      · cases read
      · rename_i few
        cases read
        have limited : 10 ^ ds.length ≤ 10 ^ digitLimit := Nat.pow_le_pow_right (by norm_num) (not_lt.mp few)
        refine .int (lt_of_le_of_lt ?_ ((digitsValue_lt whole).trans_le limited))
        split
        · rw [Int.natAbs_neg, Int.natAbs_natCast]
        · rw [Int.natAbs_natCast]
    · cases read
      exact .real (canonical_ofDecimal _ _ _)

theorem scalar_proper {c c' : Cursor} {v : Value} (read : c.scalar = .ok (v, c')) : Proper v := by
  unfold Cursor.scalar at read
  split at read
  · rename_i word w found
    cases read
    have member := List.mem_of_find?_eq_some found
    simp only [constants, List.mem_cons, Prod.mk.injEq, List.not_mem_nil, or_false] at member
    rcases member with ⟨_, rfl⟩ | ⟨_, rfl⟩ | ⟨_, rfl⟩ | ⟨_, rfl⟩ | ⟨_, rfl⟩ | ⟨_, rfl⟩
    · exact .null
    · exact .bool true
    · exact .bool false
    · exact .real (.inr rfl)
    · exact .real (canonical_ofMagnitude (Nat.le_refl _) false)
    · exact .real (canonical_ofMagnitude (Nat.le_refl _) true)
  · exact number_proper read

theorem proper_nil : Proper (.object []) := .object (by simp [Fields.keys]) (by simp)

theorem Proper.put {fields : Fields} (proper : Proper (.object fields)) {v : Value} (inner : Proper v) (key : String) :
    Proper (.object (Fields.put key v fields)) := by
  cases proper with
  | object single inners =>
    refine .object (nodup_keys_put single key v) fun e member => ?_
    rcases mem_put member with rfl | old
    · exact inner
    · exact inners e old

/-- Whatever is read is proper, at every depth. -/
theorem read_proper (fuel : Nat) :
    (∀ c c' v, readValue fuel c = .ok (v, c') → Proper v) ∧
    (∀ c c' v read, Proper (.object read) → readFields fuel c read = .ok (v, c') → Proper v) ∧
    ∀ c c' v read, (∀ w ∈ read, Proper w) → readItems fuel c read = .ok (v, c') → Proper v := by
  induction fuel with
  | zero =>
    refine ⟨fun c c' v read => ?_, fun c c' v fields _ read => ?_, fun c c' v items _ read => ?_⟩ <;> cases read
  | succ fuel ih =>
    obtain ⟨value, fields, items⟩ := ih
    refine ⟨fun c c' v read => ?_, fun c c' v before proper read => ?_, fun c c' v before proper read => ?_⟩
    · unfold readValue at read
      split at read
      · cases read
      · obtain ⟨⟨s, behind⟩, _, read⟩ := bind_eq_ok_iff.mp read
        cases read
        exact .text s
      · dsimp only at read
        split at read
        · cases read
          exact proper_nil
        · exact fields _ _ _ _ proper_nil read
      · dsimp only at read
        split at read
        · cases read
          exact .list (by simp)
        · exact items _ _ _ _ (by simp) read
      · exact scalar_proper read
    · unfold readFields at read
      split at read
      · obtain ⟨⟨key, behind⟩, _, read⟩ := bind_eq_ok_iff.mp read
        dsimp only at read
        split at read
        · obtain ⟨⟨w, behind⟩, inner, read⟩ := bind_eq_ok_iff.mp read
          have more := proper.put (value _ _ _ inner) key
          dsimp only at read
          split at read
          · cases read
            exact more
          · exact fields _ _ _ _ more read
          · cases read
        · cases read
      · cases read
    · unfold readItems at read
      obtain ⟨⟨w, behind⟩, inner, read⟩ := bind_eq_ok_iff.mp read
      have more : ∀ u ∈ w :: before, Proper u := List.forall_mem_cons.mpr ⟨value _ _ _ inner, proper⟩
      dsimp only at read
      split at read
      · cases read
        exact .list fun u member => more u (List.mem_reverse.mp member)
      · exact items _ _ _ _ more read
      · cases read

/-- A text gives a proper value. -/
theorem readChars_proper {cs : List Char} {v : Value} (read : readChars cs = .ok v) : Proper v := by
  unfold readChars at read
  split at read
  · cases read
  · obtain ⟨⟨w, behind⟩, inner, read⟩ := bind_eq_ok_iff.mp read
    dsimp only at read
    split at read
    · cases read
      exact (read_proper _).1 _ _ _ inner
    · cases read

end Diagnosis.Json
