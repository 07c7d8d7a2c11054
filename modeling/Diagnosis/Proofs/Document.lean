import Diagnosis.Console
import Diagnosis.Proofs.Display.Problems
import Diagnosis.Proofs.Engine.Home
import Diagnosis.Proofs.Result
import Diagnosis.Proofs.Uri.File

/-!
# Documents and their addresses

A document is known by the address of the path that its file resolves to. The address leads back to
that path, whatever characters are in it, so that no other path has it, and what is shown under the
address is shown under the name of the document.
-/

namespace Diagnosis

open Diagnosis.Console (cleanLine printedFor)
open Diagnosis.Display (Problems Table)

namespace Engine

/-- What an engine loads has been read where the path resolves to. -/
theorem load_eq_ok {e : Engine} {path : String} {version : Int} {d : Document}
    (given : (e.load path version).2 = .ok d) :
    ∃ encoding, Document.read e.machine.tree e.machine.directory path encoding version = .ok d := by
  unfold load at given
  split at given
  · cases given
  · split at given
    · cases given
    · next found =>
      obtain ⟨settings, same⟩ := e.settingsFor_keeps (Uri.ofPath _) path
      rw [found] at same
      cases same
      exact ⟨_, given⟩

end Engine

namespace Document

/-- A document of a path: it has the text of the path, and the address of that. -/
structure At (d : Document) (p : Path) : Prop where
  plain : p.Plain
  rooted : Rooted p.text
  path : d.path = p.text
  uri : d.uri = Uri.ofPath p.text

theorem at_of_read {t : FileTree} {directory : List String} {path encoding : String} {version : Int} {d : Document}
    (given : Document.read t directory path encoding version = .ok d) :
    ∃ p, t.resolve directory path = .ok p ∧ d.At p := by
  obtain ⟨p, text, resolved, rfl⟩ := Engine.read_eq_ok given
  exact ⟨p, resolved, FileTree.resolve_plain resolved, FileTree.rooted_resolve resolved, rfl, rfl⟩

variable {d d' : Document} {p q : Path}

theorem At.toPath_uri (there : d.At p) : Uri.toPath d.uri = .ok p.text := by
  rw [there.uri]
  exact Uri.toPath_ofPath_rooted there.rooted

/-- Documents share an address just if their paths are equal. -/
theorem At.uri_eq_iff (there : d.At p) (there' : d'.At q) : d.uri = d'.uri ↔ p = q := by
  rw [there.uri, there'.uri]
  exact ⟨fun same => Path.text_injective there.plain there'.plain (Uri.ofPath_injective same), fun same => by rw [same]⟩

theorem At.name_eq (there : d.At p) : d.name = p.name := by
  rw [name, fileName, there.path, Path.ofString_text there.plain]

/-- What is shown under an address is shown under a name: a set on a console with any terminal, which
may refuse the name, and the rows of a set in the table of all problems. -/
structure ShownAs (uri name : String) : Prop where
  clean : ∀ terminal : Terminal, printedFor (.text terminal) uri [] =
    terminal.accept (cleanLine name) (.markup (cleanLine name))
  titled : ∀ (terminal : Terminal) ds x, ds ≠ [] → printedFor (.text terminal) uri ds = .ok x →
    terminal.refusal? name = none ∧ ∃ t : Table, x = .table t ∧ t.title = name
  rows : ∀ (problems : Problems) (others : List String), (problems.rowsOf (uri :: others)).1 =
    (problems.setOf uri).map (Problems.rowOf name) ++ (problems.rowsOf others).1

theorem At.shownAs (there : d.At p) : ShownAs d.uri d.name := by
  have found := there.toPath_uri
  have name : fileName p.text = d.name := by rw [Document.name, there.path]
  refine ⟨fun terminal => ?_, fun terminal ds x some_diagnostic shown => ?_, fun problems others => ?_⟩
  · rw [← name, printedFor, found]
    rfl
  · have filled : ds.isEmpty = false := by simpa using some_diagnostic
    rw [printedFor, found] at shown
    simp only [Except.mapError, Except.bind, filled, Bool.false_eq_true, if_false, Terminal.accept, name] at shown
    split at shown
    · split at shown
      · cases shown
      · next accepted =>
        cases shown
        exact ⟨accepted, _, rfl, name⟩
    · cases shown
  · rw [Problems.rowsOf_cons, found, ← name]

/-- The address of every path from the root leads back to the path. A document that is read, by
itself or by an engine, has the path that its file resolves to and the address of that, which leads
back to it. So two documents share an address only if they are of one path, and what is shown under
the address of a document is shown under the name of the document. -/
theorem address_round_trip :
    (∀ path, Rooted path → Uri.toPath (Uri.ofPath path) = .ok path) ∧
    (∀ (t : FileTree) directory path encoding version d,
      Document.read t directory path encoding version = .ok d → ∃ p, t.resolve directory path = .ok p ∧ d.At p) ∧
    (∀ (e : Engine) path version d, (e.load path version).2 = .ok d →
      ∃ p, e.machine.tree.resolve e.machine.directory path = .ok p ∧ d.At p) ∧
    (∀ (d : Document) p, d.At p → Uri.toPath d.uri = .ok p.text ∧ d.name = p.name ∧ ShownAs d.uri d.name) ∧
    ∀ (d d' : Document) p q, d.At p → d'.At q → (d.uri = d'.uri ↔ p = q) := by
  refine ⟨fun path => Uri.toPath_ofPath_rooted, fun t directory path encoding version d => at_of_read,
    fun e path version d given => ?_, fun d p there => ⟨there.toPath_uri, there.name_eq, there.shownAs⟩,
    fun d d' p q there there' => there.uri_eq_iff there'⟩
  obtain ⟨encoding, read⟩ := Engine.load_eq_ok given
  exact at_of_read read

/-- A tree with a file of an odd name, and a link to its folder. -/
def oddTree : FileTree :=
  ⟨[(["%41 ?"], .directory), (["%41 ?", "é;#\n😀.c"], .file [10]), (["l"], .link "%41 ?")]⟩

/-- The file of an odd name is read through the link, and its address leads back to where it is. So does
the address of a path with two slashes at the front. -/
theorem address_round_trip_odd :
    Uri.toPath (Uri.ofPath "//a;b?c#d") = .ok "//a;b?c#d" ∧
    (∃ d p, Document.read oddTree [] "/l/./é;#\n😀.c" "utf-8" 0 = .ok d ∧ d.At p ∧
      d.uri = "file:///%2541%20%3F/%C3%A9%3B%23%0A%F0%9F%98%80.c" ∧ Uri.toPath d.uri = .ok "/%41 ?/é;#\n😀.c" ∧
      ShownAs d.uri "é;#\n😀.c") ∧
    ∃ e d p, Engine.create Engine.smallMachine .display ⟨"/", ["home"]⟩ none = .ok e ∧
      (e.load "/home/../a.c" 0).2 = .ok d ∧ d.At p ∧ Uri.toPath d.uri = .ok "/a.c" := by
  obtain ⟨paths, reads, loads, back, _⟩ := address_round_trip
  refine ⟨paths _ rfl, ?_, ?_⟩
  · have checked : (Document.read oddTree [] "/l/./é;#\n😀.c" "utf-8" 0).toOption.any (fun d =>
        d.path = "/%41 ?/é;#\n😀.c" ∧ d.name = "é;#\n😀.c" ∧
        d.uri = "file:///%2541%20%3F/%C3%A9%3B%23%0A%F0%9F%98%80.c") = true := by
      decide +kernel
    obtain ⟨d, given, holds⟩ := exists_ok_of_any checked
    obtain ⟨path, name, uri⟩ := of_decide_eq_true holds
    obtain ⟨p, _, there⟩ := reads _ _ _ _ _ d given
    obtain ⟨leads, _, shown⟩ := back d p there
    rw [← there.path, path] at leads
    rw [name] at shown
    exact ⟨d, p, given, there, uri, leads, shown⟩
  · have checked : (Engine.create Engine.smallMachine .display ⟨"/", ["home"]⟩ none).toOption.any (fun e =>
        (e.load "/home/../a.c" 0).2.toOption.any fun d => d.path = "/a.c") = true := by
      decide +kernel
    obtain ⟨e, created, holds⟩ := exists_ok_of_any checked
    obtain ⟨d, given, path⟩ := exists_ok_of_any holds
    obtain ⟨p, _, there⟩ := loads e _ _ d given
    have leads := (back d p there).1
    rw [← there.path, of_decide_eq_true path] at leads
    exact ⟨e, d, p, created, given, there, leads⟩

end Document

end Diagnosis
