import Diagnosis.Proofs.App.Course
import Diagnosis.Proofs.App.View
import Diagnosis.Proofs.Engine.Reach

/-!
# What a message about the configuration leads to

When the configuration has changed, the application leaves it to its engine to validate anew what is
open. A source file that could never be read is not open, and is left out although it could be read now.
-/

namespace Diagnosis.App

open Diagnosis.Engine (Recorded ScheduledSince recorded_create scheduled_iff)

/-- A message about the configuration that is dealt with without a failure is logged, and then the
change comes to its end. -/
theorem receive_configured {b c : App} {file : String}
    (handled : b.receive (.changed (.configured file)) = (c, none)) :
    ∃ ns, (b.engine.tell (.log ("Configuration changed: " ++ file))).configurationChanged = (c.engine, .ok ns) := by
  simp only [receive] at handled
  split at handled
  · cases handled
  · rename_i changed
    cases handled
    exact ⟨_, changed⟩

/-- In every run of an application, dealing with a message about the configuration without a failure has
a file validated that can be read afterwards, with the text that is read now, just if a validation from
before the message was of a path that leads to the file. -/
theorem configured_schedules_iff {machine : Machine} {folder : Path} {workspace : Option String} {e : Engine} {a : App}
    (created : Engine.create machine .display folder workspace = .ok e) {sources : List String} {watched : Bool}
    (started : App.create e sources watched = .ok a) (moves : List Move) {file : String} {rest : List Message}
    (first : (a.run moves).inbox = .changed (.configured file) :: rest) {c : App}
    (handled : { a.run moves with inbox := rest }.receive (.changed (.configured file)) = (c, none)) {source : String}
    {d : Document} (given : (c.engine.load source 0).2 = .ok d) :
    (a.run (moves ++ [.received])) = c ∧
    (ScheduledSince (a.run moves).engine c.engine d ↔ ∃ v ∈ (a.run moves).engine.validations,
      c.engine.machine.tree.resolve c.engine.machine.directory v.document.path =
        c.engine.machine.tree.resolve c.engine.machine.directory source) := by
  have dealt : a.run (moves ++ [.received]) = c := by
    have last : a.run (moves ++ [.received]) = (a.run moves).receiveFirst := run_append a moves [.received]
    rw [last, receiveFirst, first]
    exact congrArg Prod.fst handled
  refine ⟨dealt, ?_⟩
  obtain ⟨ns, changed⟩ := receive_configured handled
  have engine : a.engine = e := by
    obtain ⟨paths, rfl⟩ := eq_of_create started
    rfl
  have proceeds := run_proceeds a moves
  rw [engine] at proceeds
  generalize a.run moves = b at *
  have logged : Engine.Proceeds e (b.engine.tell (.log ("Configuration changed: " ++ file))) := proceeds.told rfl
  have attended := logged.attended (Engine.attended_create created)
  have recorded := logged.recorded (Engine.attended_create created) (recorded_create created)
  have reached := scheduled_iff attended.registered attended.housed (by rw [changed]) (by rw [changed]; exact given)
  rw [changed] at reached
  exact reached.trans (recorded.exists_open_iff attended.housed fun path =>
    c.engine.machine.tree.resolve c.engine.machine.directory path =
      c.engine.machine.tree.resolve c.engine.machine.directory source)

/-- A machine with a source file that is no text in the built-in encoding, and maybe with a setting for
another one. -/
def foreignMachine (settled : Bool) : Machine where
  tree := ⟨[(["home"], .directory), (["a.c"], .file [255])] ++
    if settled then
      [([".cccdiag.json"], .file (Encoding.Utf8.encode "\x7b\"parse.encoding\": \"latin-1\"\x7d".toList))]
    else []⟩
  directory := []

/-- The application begins, and the encoding of its source file is set. -/
def encodingSet : List Move := [.mounted, .moved (foreignMachine true), .noticed false (.created "/.cccdiag.json")]

/-- The source file as it is read then. -/
def foreignDocument : Document := ⟨"file:///a.c", "/a.c", "ÿ", 0⟩

/-- The source file is not validated if it could not be read before, and is if it could. -/
theorem configured_schedules_iff_foreign :
    (∃ e a c, Engine.create (foreignMachine false) .display ⟨"/", ["home"]⟩ none = .ok e ∧
      App.create e ["a.c"] true = .ok a ∧
      (a.run encodingSet).inbox = [.changed (.configured "/.cccdiag.json")] ∧
      { a.run encodingSet with inbox := [] }.receive (.changed (.configured "/.cccdiag.json")) = (c, none) ∧
      a.sources = ["/a.c"] ∧ (c.engine.load "/a.c" 0).2 = .ok foreignDocument ∧
      ¬ ScheduledSince (a.run encodingSet).engine c.engine foreignDocument) ∧
    ∃ e a c, Engine.create (foreignMachine true) .display ⟨"/", ["home"]⟩ none = .ok e ∧
      App.create e ["a.c"] true = .ok a ∧
      (a.run encodingSet).inbox = [.changed (.configured "/.cccdiag.json")] ∧
      { a.run encodingSet with inbox := [] }.receive (.changed (.configured "/.cccdiag.json")) = (c, none) ∧
      ScheduledSince (a.run encodingSet).engine c.engine foreignDocument := by
  constructor
  · have checked : (launch (foreignMachine false) ⟨"/", ["home"]⟩ none ["a.c"] true).toOption.any (fun a =>
        let b := a.run encodingSet
        let r := { b with inbox := [] }.receive (.changed (.configured "/.cccdiag.json"))
        b.inbox = [.changed (.configured "/.cccdiag.json")] ∧ r.2 = none ∧ a.sources = ["/a.c"] ∧
        (r.1.engine.load "/a.c" 0).2 = .ok foreignDocument ∧ b.engine.validations = []) = true := by
      decide +kernel
    obtain ⟨e, a, created, started, holds⟩ := exists_launched checked
    obtain ⟨first, handled, sources, given, unvalidated⟩ := of_decide_eq_true holds
    refine ⟨e, a, _, created, started, first, Prod.ext rfl handled, sources, given, ?_⟩
    rw [(configured_schedules_iff created started encodingSet first (Prod.ext rfl handled) given).2]
    rintro ⟨v, member, _⟩
    rw [unvalidated] at member
    cases member
  · have checked : (launch (foreignMachine true) ⟨"/", ["home"]⟩ none ["a.c"] true).toOption.any (fun a =>
        let b := a.run encodingSet
        let r := { b with inbox := [] }.receive (.changed (.configured "/.cccdiag.json"))
        b.inbox = [.changed (.configured "/.cccdiag.json")] ∧ r.2 = none ∧
        (r.1.engine.load "/a.c" 0).2 = .ok foreignDocument ∧
        ∃ v ∈ b.engine.validations, v.document.path = "/a.c") = true := by
      decide +kernel
    obtain ⟨e, a, created, started, holds⟩ := exists_launched checked
    obtain ⟨first, handled, given, v, member, path⟩ := of_decide_eq_true holds
    refine ⟨e, a, _, created, started, first, Prod.ext rfl handled, ?_⟩
    rw [(configured_schedules_iff created started encodingSet first (Prod.ext rfl handled) given).2]
    exact ⟨v, member, by rw [path]⟩

end Diagnosis.App
