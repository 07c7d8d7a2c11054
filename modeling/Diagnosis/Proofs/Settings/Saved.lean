import Diagnosis.Proofs.Encoding.Utf8
import Diagnosis.Proofs.Json.Ascii
import Diagnosis.Proofs.Json.Readable
import Diagnosis.Proofs.Settings.Stack

/-!
# Saved layers

A layer that is written to a file is read from it as it was: none of its keys is dotted, its
values are written so that they are read back, and it is not taken for a file whose only section
holds the settings.
-/

namespace Diagnosis

theorem Text.unifyLineEnds_of_free {cs : List Char} (free : '\r' ∉ cs) : Text.unifyLineEnds cs = cs := by
  induction cs with
  | nil => rfl
  | cons c rest ih =>
    rw [List.mem_cons, not_or] at free
    rw [Text.unifyLineEnds, if_neg (Ne.symm free.1), ih free.2]
    rintro _ rfl
    exact absurd rfl free.1

namespace Settings

open Diagnosis.Json

/-- Values that can be read back still can be when their dotted keys are nested and they are put over others. -/
theorem proper_expandable : Hereditary.Expandable (fun _ => True) Proper Proper where
  nil := proper_nil
  fields := fun (.object _ inner) e member => ⟨trivial, inner e member⟩
  put whole _ inner := whole.put inner _
  parts _ _ _ := trivial
  leaf given _ := given
  inner := fun (.object _ inner) => inner

theorem builtIn_proper : Proper (.object builtIn) := by
  have digit {n : Int} (small : n.natAbs < 10 ^ 3) : Proper (.int n) :=
    .int (small.trans_le (Nat.pow_le_pow_right (by decide) (by decide)))
  have texts (ss : List String) : Proper (.list (ss.map .text)) := .list fun v member => by
    obtain ⟨s, _, rfl⟩ := List.mem_map.mp member
    exact .text s
  refine .object (by decide) ?_
  simp only [builtIn, List.forall_mem_cons]
  refine ⟨digit (by decide), .text _, texts ["-fsyntax-only", "-Wall", "-fdiagnostics-parseable-fixits"], .text _, ?_, .text _, ?_,
    by simp⟩
  · refine .object (by decide) ?_
    simp only [List.forall_mem_cons]
    exact ⟨texts [], texts [], by simp⟩
  · refine .object (by decide) ?_
    simp only [List.forall_mem_cons]
    refine ⟨.text _, .text _, ?_, ?_, by simp⟩
    · refine .object (by decide) ?_
      simp only [List.forall_mem_cons]
      exact ⟨digit (by decide), digit (by decide), digit (by decide), digit (by decide), by simp⟩
    · refine .object (by decide) ?_
      simp only [List.forall_mem_cons]
      exact ⟨.text _, .text _, .text _, .text _, by simp⟩

/-- The layer of a file has been read, and can be read back. -/
theorem Store.ownLayer_proper (t : FileTree) (directory : List String) (folder : Path) :
    Proper (.object (ownLayer t directory folder)) := by
  unfold ownLayer
  cases given : loadLayer t directory (fileIn folder) with
  | error reason => exact proper_nil
  | ok layer =>
    obtain ⟨_, _, read, layered⟩ := loadLayer_eq_ok given
    exact proper_expandable.layerOf (readChars_proper read) layered

/-- A tidy layer with more than the section that a whole file may be nested under stands for itself. -/
theorem layerOf_object {layer : Fields} (tidy : Tidy (.object layer)) {key : String} (member : key ∈ layer.keys)
    (other : key ≠ sectionName) : layerOf? (.object layer) = some layer := by
  unfold layerOf? Value.fields?
  rw [Option.map_some, tidy.expand]
  refine congrArg some ?_
  split
  · rename_i only inner
    have same : key = only := by simpa [Fields.keys] using member
    rw [if_neg (same ▸ other)]
  · rfl

/-- What is saved is read back. -/
theorem readLayer_encode {layer : Fields} (tidy : Tidy (.object layer)) (proper : Proper (.object layer)) {key : String}
    (member : key ∈ layer.keys) (other : key ≠ sectionName) :
    readLayer (Encoding.Utf8.encode (renderIndented (.object layer)).toList) = .ok layer := by
  have free : '\r' ∉ writeValue .indented 0 (.object layer) := fun among =>
    absurd (ascii_writeValue .indented (.object layer) 0 '\r' among) (by decide)
  unfold readLayer
  rw [Encoding.Utf8.decode_encode, renderIndented, String.toList_ofList]
  dsimp only
  rw [Text.unifyLineEnds_of_free free, readChars_writeValue proper]
  dsimp only
  rw [layerOf_object tidy member other]

end Settings

end Diagnosis
