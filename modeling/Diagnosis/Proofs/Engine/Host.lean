import Diagnosis.Engine.Basic
import Diagnosis.Proofs.Console
import Diagnosis.Proofs.Uri.File

/-!
# What hosts accept

Which sets of diagnostics a host accepts under the address of a path. A host that displays everything
accepts them all. A console has to write the numbers of a set, and one that prints no JSON has a
terminal, which has to take the line or the title with the name of the file.
-/

namespace Diagnosis

open Diagnosis.Console (cleanLine printedFor)
open Diagnosis.Text (digitLimit isShort_iff)

/-- The text with the name of a file in it that a terminal has to take with a set. -/
def Console.headline (name : String) (ds : List Diagnostic) : String := if ds = [] then cleanLine name else name

/-- A host accepts a set under the address of a path. -/
def Host.Accepts : Host → String → List Diagnostic → Prop
  | .display, _, _ => True
  | .console .json, _, ds => ∀ d ∈ ds, d.Short
  | .console (.text terminal), path, ds => terminal.refusal? (Console.headline (fileName path) ds) = none ∧
      ∀ d ∈ ds, d.line.natAbs < 10 ^ digitLimit ∧ d.column.natAbs < 10 ^ digitLimit

namespace Console

theorem refusal?_eq_none_iff (form : Form) (uri : String) (ds : List Diagnostic) :
    refusal? form uri ds = none ↔ ∃ p, printedFor form uri ds = .ok p := by
  unfold refusal?
  cases printedFor form uri ds <;> simp

theorem refusal?_json_iff (uri : String) (ds : List Diagnostic) :
    refusal? .json uri ds = none ↔ ∀ d ∈ ds, d.Short := by
  rw [refusal?_eq_none_iff, printedFor]
  constructor
  · rintro ⟨p, printed⟩
    cases written : jsonOf uri ds with
    | ok text => exact ((jsonOf_eq_ok_iff uri ds text).mp written).1
    | error message => rw [written] at printed; cases printed
  · intro short
    rw [(jsonOf_eq_ok_iff uri ds _).mpr ⟨short, rfl⟩]
    exact ⟨_, rfl⟩

/-- A terminal takes something just if it does not refuse the text. -/
theorem accept_eq_ok_iff (terminal : Terminal) (text : String) (p q : Printed) :
    terminal.accept text p = .ok q ↔ terminal.refusal? text = none ∧ p = q := by
  unfold Terminal.accept
  cases terminal.refusal? text <;> simp

theorem refusal?_text_iff (terminal : Terminal) {uri path : String} (found : Uri.toPath uri = .ok path)
    (ds : List Diagnostic) :
    refusal? (.text terminal) uri ds = none ↔ terminal.refusal? (headline (fileName path) ds) = none ∧
      ∀ d ∈ ds, d.line.natAbs < 10 ^ digitLimit ∧ d.column.natAbs < 10 ^ digitLimit := by
  have written : ds.all (fun d => Text.isShort d.line && Text.isShort d.column) = true ↔
      ∀ d ∈ ds, d.line.natAbs < 10 ^ digitLimit ∧ d.column.natAbs < 10 ^ digitLimit := by
    simp only [List.all_eq_true, Bool.and_eq_true, isShort_iff]
  rw [refusal?_eq_none_iff, printedFor, found]
  dsimp only [Except.mapError, Except.bind]
  cases ds with
  | nil => simp [accept_eq_ok_iff, headline]
  | cons d rest =>
    rw [← written, headline, if_neg (List.cons_ne_nil d rest), List.isEmpty_cons, if_neg Bool.false_ne_true]
    split
    · next short => simp [accept_eq_ok_iff, short]
    · next long => simp [long]

end Console

/-- What a host accepts under the address of a path from the root. -/
theorem Host.refusal?_eq_none_iff (host : Host) {path : String} (rooted : Rooted path) (ds : List Diagnostic) :
    host.refusal? (Uri.ofPath path) ds = none ↔ host.Accepts path ds := by
  cases host with
  | display => exact iff_of_true rfl trivial
  | console form =>
    cases form with
    | json => exact Console.refusal?_json_iff _ ds
    | text terminal => exact Console.refusal?_text_iff terminal (Uri.toPath_ofPath_rooted rooted) ds

end Diagnosis
