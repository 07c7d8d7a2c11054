import Diagnosis.App
import Diagnosis.Proofs.Watch

/-!
# What is told of configuration files

What an event means depends on the path that it leaves something new at, and on where that path
leads by then. A configuration file is told of whenever a file is written or moved to its place, but
not when it is itself moved away: where it has been is not looked at.
-/

namespace Diagnosis

/-- The paths that an event names. -/
def FileEvent.ends : FileEvent → List String
  | .modified path | .created path => [path]
  | .moved source target => [source, target]

namespace Watch

open Diagnosis.FileTree (Direct textOf textOf_eq resolve_textOf)

variable {t : FileTree} {directory : List String} {w : Watch} {e : FileEvent} {file : String}

/-- A path leads to a file, which is given by its path without links. -/
def LeadsTo (t : FileTree) (directory : List String) (path file : String) : Prop :=
  ∃ p, t.resolve directory path = .ok p ∧ p.text = file

/-- An event is about a file: a path that it names is that of the file, or leads to the file. -/
def Concerns (t : FileTree) (directory : List String) (e : FileEvent) (file : String) : Prop :=
  ∃ path ∈ e.ends, path = file ∨ LeadsTo t directory path file

/-- A file has been moved away, and not back to its own place. -/
def MovedAway (t : FileTree) (directory : List String) (e : FileEvent) (file : String) : Prop :=
  ∃ source target, e = .moved source target ∧ (source = file ∨ LeadsTo t directory source file) ∧
    ¬ LeadsTo t directory target file

/-- What is new at the place of a file leads elsewhere, or nowhere. -/
def Supplanted (t : FileTree) (directory : List String) (e : FileEvent) (file : String) : Prop :=
  e.path = file ∧ ¬ LeadsTo t directory e.path file

/-! ## Configuration files that are told of -/

theorem changeAt_config (config : file ∈ w.configs) (other : file ∉ w.documents) :
    w.changeAt file = some (.configured file) := by
  rw [changeAt, if_neg (by simpa using other), if_pos (by simpa using config)]

theorem eq_of_changeAt {path : String} (told : w.changeAt path = some (.configured file)) : path = file := by
  unfold changeAt at told
  split at told
  · cases told
  · split at told
    · cases told
      rfl
    · cases told

/-- A configuration file that is no document is told of, and nothing else, just if the path with
something new leads to it. -/
theorem calls_eq_configured_iff (config : file ∈ w.configs) (other : file ∉ w.documents) :
    w.calls t directory false e = [.configured file] ↔ LeadsTo t directory e.path file := by
  constructor
  · intro told
    unfold calls changeOf at told
    rw [if_neg Bool.false_ne_true] at told
    cases resolved : t.resolve directory e.path with
    | error f =>
      rw [resolved] at told
      cases told
    | ok p =>
      rw [resolved] at told
      exact ⟨p, resolved, eq_of_changeAt (Option.toList_eq_singleton_iff.mp told)⟩
  · rintro ⟨p, resolved, rfl⟩
    rw [calls_resolved resolved, changeAt_config config other]
    rfl

/-- An event about a file whose new path does not lead there has moved it away, or put something else
in its place. -/
theorem not_leadsTo_iff (concerns : Concerns t directory e file) :
    ¬ LeadsTo t directory e.path file ↔ MovedAway t directory e file ∨ Supplanted t directory e file := by
  constructor
  · intro elsewhere
    obtain ⟨path, named, about⟩ := concerns
    by_cases new : path = e.path
    · subst new
      exact .inr ⟨about.resolve_right elsewhere, elsewhere⟩
    · cases e with
      | modified _ => exact absurd (List.mem_singleton.mp named) new
      | created _ => exact absurd (List.mem_singleton.mp named) new
      | moved source target =>
        have left : path = source := by
          rcases List.mem_cons.mp named with here | there
          · exact here
          · exact absurd (List.mem_singleton.mp there) new
        subst left
        exact .inl ⟨path, target, rfl, about, elsewhere⟩
  · rintro (⟨source, target, rfl, _, elsewhere⟩ | ⟨_, elsewhere⟩)
    · exact elsewhere
    · exact elsewhere

/-- A place that no link is on the way to is where its path leads. -/
theorem leadsTo_direct {place : List String} (direct : Direct t place) (clean : '\x00' ∉ (textOf place).toList) :
    LeadsTo t directory (textOf place) (textOf place) :=
  ⟨_, resolve_textOf direct clean directory, (textOf_eq place).symm⟩

/-! ## The application -/

/-- An application that watches takes note of what it is told, and of nothing else. -/
theorem notice_eq {a : App} (watching : a.watch = some w) (isDirectory : Bool) (e : FileEvent) :
    (a.notice isDirectory e).1 = { a with
      inbox := a.inbox ++
        (w.calls a.engine.machine.tree a.engine.machine.directory isDirectory e).map .changed } := by
  simp only [App.notice, watching, calls]
  cases w.changeOf a.engine.machine.tree a.engine.machine.directory isDirectory e with
  | error f => simp [← watching]
  | ok c => rfl

/-- An event about a watched configuration file that is no document is told, and noted by an
application, just if the path that it leaves something new at leads to the file. So it is missed if
and only if the file has been moved away, or what has been put in its place leads elsewhere, which no
file does that no link is on the way to. -/
theorem configuration_event_told_iff (config : file ∈ w.configs) (other : file ∉ w.documents)
    (concerns : Concerns t directory e file) :
    (w.calls t directory false e = [.configured file] ↔ LeadsTo t directory e.path file) ∧
    (w.calls t directory false e ≠ [.configured file] ↔
      MovedAway t directory e file ∨ Supplanted t directory e file) ∧
    (∀ place, textOf place = file → Direct t place → '\x00' ∉ file.toList → ¬ Supplanted t directory e file) ∧
    ∀ a : App, a.watch = some w → a.engine.machine.tree = t → a.engine.machine.directory = directory →
      ((a.notice false e).1.inbox = a.inbox ++ [.changed (.configured file)] ↔ LeadsTo t directory e.path file) := by
  have told : w.calls t directory false e = [.configured file] ↔ LeadsTo t directory e.path file :=
    calls_eq_configured_iff config other
  refine ⟨told, (not_congr told).trans (not_leadsTo_iff concerns), ?_, ?_⟩
  · rintro place rfl direct clean ⟨here, elsewhere⟩
    rw [here] at elsewhere
    exact elsewhere (leadsTo_direct direct clean)
  · rintro a watching rfl rfl
    rw [notice_eq watching, List.append_cancel_left_eq, ← told]
    constructor
    · intro noted
      obtain ⟨change, found, same⟩ := List.map_eq_singleton_iff.mp noted
      cases same
      exact found
    · intro noted
      rw [noted]
      rfl

/-- A tree with a source file, and a file of settings beside it under a name. -/
def treeWith (name : String) : FileTree :=
  ⟨[(["w"], .directory), (["w", "a.c"], .file []),
    (["w", name], .file (Encoding.Utf8.encode "\x7b\"compileCommand\": \"clang\"\x7d".toList))]⟩

/-- A watch of the source file and the settings of its folder. -/
def watchBoth : Watch :=
  { documents := ["/w/a.c"], configs := ["/w/.cccdiag.json"], scheduled := [⟨"/w", false⟩], alive := true }

/-- The compiler of the source file. -/
def commandIn (t : FileTree) : Option String :=
  ((Settings.Store.settingsFor ⟨⟨"/", ["home"]⟩, none, Settings.builtIn⟩ t ["w"] "/w/a.c").map (·.command)).toOption

/-- Moving a file to the place of the settings is told. Moving it away is not, though the compiler of
the source file becomes another one each time. -/
theorem configuration_event_told_iff_moved :
    start {} (treeWith "b.json") ["w"] ["a.c"] [".cccdiag.json"] = (watchBoth, none) ∧
    watchBoth.calls (treeWith ".cccdiag.json") ["w"] false (.moved "/w/b.json" "/w/.cccdiag.json") =
      [.configured "/w/.cccdiag.json"] ∧
    watchBoth.calls (treeWith "b.json") ["w"] false (.moved "/w/.cccdiag.json" "/w/b.json") ≠
      [.configured "/w/.cccdiag.json"] ∧
    commandIn (treeWith "b.json") = some "gcc" ∧ commandIn (treeWith ".cccdiag.json") = some "clang" := by
  have config : "/w/.cccdiag.json" ∈ watchBoth.configs := by decide
  have other : "/w/.cccdiag.json" ∉ watchBoth.documents := by decide
  have put : LeadsTo (treeWith ".cccdiag.json") ["w"] "/w/.cccdiag.json" "/w/.cccdiag.json" :=
    ⟨⟨"/", ["w", ".cccdiag.json"]⟩, by decide +kernel, by decide +kernel⟩
  have away : ¬ LeadsTo (treeWith "b.json") ["w"] "/w/b.json" "/w/.cccdiag.json" := by
    rintro ⟨p, resolved, same⟩
    have there : (treeWith "b.json").resolve ["w"] "/w/b.json" = .ok ⟨"/", ["w", "b.json"]⟩ := by decide +kernel
    cases there.symm.trans resolved
    revert same
    decide +kernel
  refine ⟨by decide +kernel, ?_, ?_, by decide +kernel, by decide +kernel⟩
  · exact (configuration_event_told_iff config other ⟨_, by simp [FileEvent.ends], .inr put⟩).1.mpr put
  · exact (configuration_event_told_iff config other ⟨_, List.mem_cons_self, .inl rfl⟩).2.1.mpr
      (.inl ⟨_, _, rfl, .inl rfl, away⟩)

end Watch

end Diagnosis
