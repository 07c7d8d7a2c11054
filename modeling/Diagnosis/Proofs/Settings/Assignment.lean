import Diagnosis.Proofs.Settings.Nesting
import Diagnosis.Proofs.Settings.Persistence

/-!
# Setting a value

To set a dotted key is to put the value at its path, whatever stands in the way. What is found under
every other key follows from how its path lies to that of the key.
-/

namespace Diagnosis.Settings.Store

open Diagnosis.Json

variable {s : Store} {t : FileTree} {directory : List String} {key other : String} {v : Value}

theorem fields_withValue (s : Store) (key : String) (v : Value) :
    (s.withValue key v).fields = putAt (keyParts key) (expandValue v) s.fields := by
  have alone : expand [(key, v)] = nest (keyParts key) (expandValue v) := by
    rw [← overlay_nil_nest, overlay_nest]
    rfl
  rw [withValue, alone, overlay_nest]

theorem get?_withValue_self (s : Store) (key : String) (v : Value) :
    (s.withValue key v).get? key = some (mergeValue (expandValue v) (s.get? key)) := by
  rw [get?, lookup?, fields_withValue]
  exact valueAt?_putAt_self (keyParts_ne_nil key) _ _

theorem get?_withValue_of_apart (apart : ¬ keyParts key <+: keyParts other)
    (beyond : ¬ keyParts other <+: keyParts key) (s : Store) (v : Value) : (s.withValue key v).get? other = s.get? other := by
  rw [get?, lookup?, fields_withValue]
  exact valueAt?_putAt apart beyond _ _

/-- The parts of a key go on from those of a different one by at least one part. -/
theorem exists_parts_of_isPrefix (start : keyParts key <+: keyParts other) (unlike : other ≠ key) :
    ∃ more, more ≠ [] ∧ keyParts other = keyParts key ++ more := by
  obtain ⟨more, whole⟩ := start
  refine ⟨more, ?_, whole.symm⟩
  rintro rfl
  rw [List.append_nil] at whole
  exact unlike (by rw [← intercalate_keyParts other, ← whole, intercalate_keyParts])

/-- What is under each key once a value that is no object has been set, whatever has been there before, and
whether or not the file could be written. Under the key is the value. Under a key whose parts neither start
with those of the key nor are the start of them is what has been there before. Under a key that goes on from it
there is nothing, and under one that it goes on from there is an object. -/
theorem get?_set (s : Store) (t : FileTree) (directory : List String) (key : String) (plain : v.fields? = none) :
    let after := ((Call.set key v).apply directory (s, t)).1.1
    (∀ fallback, (after.get? key).getD fallback = v) ∧
    (∀ other, ¬ keyParts key <+: keyParts other → ¬ keyParts other <+: keyParts key →
      ∀ fallback, (after.get? other).getD fallback = (s.get? other).getD fallback) ∧
    (∀ other, keyParts key <+: keyParts other → other ≠ key → after.get? other = none) ∧
    ∀ other, keyParts other <+: keyParts key → other ≠ key → ∃ inner, after.get? other = some (.object inner) := by
  intro after
  have same : after = s.withValue key v := rfl
  have here : after.get? key = some v := by
    rw [same, get?_withValue_self, (Tidy.leaf plain).expandValue, mergeValue_of_plain plain]
  refine ⟨fun fallback => ?_, fun other apart beyond fallback => ?_, fun other start unlike => ?_,
    fun other start unlike => ?_⟩
  · rw [here, Option.getD_some]
  · rw [same, get?_withValue_of_apart apart beyond]
  · obtain ⟨more, some_more, whole⟩ := exists_parts_of_isPrefix start unlike
    rw [get?, lookup?] at here ⊢
    rw [whole, valueAt?_append, here]
    exact valueAt?_of_leaf some_more plain
  · obtain ⟨more, some_more, whole⟩ := exists_parts_of_isPrefix start unlike.symm
    rw [get?, lookup?, whole, valueAt?_append] at here
    obtain ⟨w, found, further⟩ := Option.bind_eq_some_iff.mp here
    cases w with
    | object inner => exact ⟨inner, found⟩
    | _ =>
      rw [valueAt?_of_leaf some_more rfl] at further
      cases further

/-- A setting that is a number becomes a group with one key, which is empty; its neighbour stays. -/
theorem get?_set_below_number :
    ∃ s l, create {} [] ⟨"/", ["home"]⟩ none = .ok (s, l) ∧
      let after := (Call.set "parse.index.line_pos." (.text "x")).apply [] (s, l.tree)
      (s.get? "parse.index.line_pos").bind Value.int? = some 2 ∧ after.2 = none ∧
      (after.1.1.get? "parse.index.line_pos.").getD .null = .text "x" ∧
      (∃ inner, after.1.1.get? "parse.index.line_pos" = some (.object inner)) ∧
      (after.1.1.get? "parse.index.char_pos").getD .null = (s.get? "parse.index.char_pos").getD .null := by
  have checked : (create {} [] ⟨"/", ["home"]⟩ none).toOption.any (fun made : Store × Loaded =>
      ((made.1.get? "parse.index.line_pos").bind Value.int? == some 2) &&
      ((Call.set "parse.index.line_pos." (.text "x")).apply [] (made.1, made.2.tree)).2.isNone) = true := by
    decide +kernel
  obtain ⟨⟨s, l⟩, made, checked⟩ := exists_ok_of_any checked
  obtain ⟨before, done⟩ := Bool.and_eq_true_iff.mp checked
  obtain ⟨here, apart, _, front⟩ := get?_set s l.tree [] "parse.index.line_pos." (v := .text "x") rfl
  exact ⟨s, l, made, eq_of_beq before, Option.isNone_iff_eq_none.mp done, here _,
    front "parse.index.line_pos" (by decide +kernel) (by decide), apart _ (by decide +kernel) (by decide +kernel) _⟩

end Diagnosis.Settings.Store
