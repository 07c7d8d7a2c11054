import Diagnosis.Proofs.App.Delivery
import Diagnosis.Proofs.Display.Problems
import Diagnosis.Proofs.Result
import Diagnosis.Proofs.Uri.File

/-!
# What the application shows

The table and its counts hold the last set of each address among those that have been
dealt with. When nothing is left to deal with, these are the sets that the engine
remembers, so that what is shown is a function of the engine's state.
-/

namespace Diagnosis

open Display Engine

namespace App

/-! ## The table keeps up -/

/-- The table has the last set of each address among those that have been dealt with, the counts are
those of the table, and the other sets that the engine has published are posted. -/
structure Showing (a : App) (dealt : List (String × List Diagnostic)) : Prop where
  attended : Attended a.engine
  posted : setsIn a.engine.trace = dealt ++ a.posted
  kept : a.problems.Kept
  sets : ∀ uri, a.problems.setOf uri = (lastOf dealt uri).getD []
  errors : a.bar.errors = countOf a.problems.all .error
  warnings : a.bar.warnings = countOf a.problems.all .warning

/-- The address of a set that the engine has published leads to the path of an open document. -/
theorem document_of_dealt {e : Engine} (attended : Attended e) {dealt : List (String × List Diagnostic)}
    (seen : ∀ set ∈ dealt, set ∈ setsIn e.trace) {p : Problems} (kept : p.Kept)
    (sets : ∀ uri, p.setOf uri = (lastOf dealt uri).getD []) {uri : String} (member : uri ∈ p.sets.keys) :
    ∃ d, e.session.documents.get? uri = some d ∧ Uri.toPath uri = .ok d.path := by
  have filled := (kept.mem_keys uri).mp member
  rw [sets] at filled
  cases last : lastOf dealt uri with
  | none =>
    rw [last] at filled
    exact absurd rfl filled
  | some ds =>
    obtain ⟨d, found, home, address⟩ := attended.document (attended.opened uri ds (seen _ (mem_of_lastOf last)))
    refine ⟨d, found, ?_⟩
    rw [← address, home.located]
    exact Uri.toPath_ofPath_rooted home.rooted

variable {a a' : App} {dealt : List (String × List Diagnostic)}

theorem Showing.onward (showing : Showing a dealt) (onward : Onward a a') : Showing a' dealt := by
  obtain ⟨events, grown, posted⟩ := onward.posted
  refine ⟨onward.attended, ?_, ?_, ?_, ?_, ?_⟩
  · rw [grown, setsIn_append, showing.posted, posted, List.append_assoc]
  · rw [onward.problems]
    exact showing.kept
  · rw [onward.problems]
    exact showing.sets
  · rw [onward.errors, onward.problems]
    exact showing.errors
  · rw [onward.warnings, onward.problems]
    exact showing.warnings

/-- Dealing with a set puts it into the table without complaint, counts anew, and says so. -/
theorem Showing.published {uri : String} {ds : List Diagnostic} {rest : List Message} (showing : Showing a dealt)
    (first : a.inbox = .published uri ds :: rest) :
    Showing a.receiveFirst (dealt ++ [(uri, ds)]) ∧ a.receiveFirst.bar.status = "updated %H:%M:%S" := by
  have kept := showing.kept.set uri ds
  have sets (other : String) : (a.problems.set uri ds).1.setOf other =
      (lastOf (dealt ++ [(uri, ds)]) other).getD [] := by
    rw [Problems.setOf_set, lastOf_concat, showing.sets]
    split <;> rfl
  have posted : setsIn a.engine.trace = (dealt ++ [(uri, ds)]) ++ rest.filterMap set? := by
    rw [showing.posted, App.posted, first, List.append_assoc]
    rfl
  have accepted : (a.problems.set uri ds).2 = none := by
    refine Problems.set_readable fun other member => ?_
    have seen : ∀ set ∈ dealt ++ [(uri, ds)], set ∈ setsIn a.engine.trace := by
      rw [posted]
      exact fun set dealt => List.mem_append_left _ dealt
    obtain ⟨d, _, found⟩ := document_of_dealt showing.attended seen kept sets member
    exact ⟨d.path, found⟩
  obtain ⟨problems, complaint, taken⟩ : ∃ p c, a.problems.set uri ds = (p, c) := ⟨_, _, rfl⟩
  rw [taken] at accepted kept sets
  change complaint = none at accepted
  subst accepted
  unfold receiveFirst
  rw [first]
  simp only [receive, taken]
  exact ⟨⟨showing.attended, posted, kept, sets, rfl, rfl⟩, rfl⟩

/-- A move deals with a set that is first in the inbox. -/
def DealsWith (a : App) (m : Move) (set : String × List Diagnostic) : Prop :=
  m = .received ∧ ∃ rest, a.inbox = .published set.1 set.2 :: rest

/-- Every move keeps the table up with the sets that have been dealt with, and with the one that it
deals with. -/
theorem Showing.after_cases (showing : Showing a dealt) (m : Move) :
    (∃ set, DealsWith a m set ∧ Showing (a.after m) (dealt ++ [set]) ∧
      (a.after m).bar.status = "updated %H:%M:%S") ∨
    (∀ set, ¬ DealsWith a m set) ∧ Showing (a.after m) dealt := by
  by_cases receives : m = .received
  · subst receives
    cases inbox : a.inbox with
    | nil =>
      have still : a.receiveFirst = a := by
        unfold receiveFirst
        rw [inbox]
      refine .inr ⟨?_, by rw [App.after, still]; exact showing⟩
      rintro set ⟨_, rest, first⟩
      rw [inbox] at first
      cases first
    | cons m rest =>
      cases m with
      | published uri ds => exact .inl ⟨(uri, ds), ⟨rfl, rest, inbox⟩, showing.published inbox⟩
      | changed c =>
        have still : Onward a { a with inbox := rest } := by
          refine ⟨showing.attended, ⟨[], by simp, ?_⟩, rfl, rfl, rfl⟩
          rw [App.posted, App.posted, inbox, setsIn_nil, List.append_nil]
          rfl
        have dealing := still.trans (receive_changed_onward still.attended c)
        have first : a.receiveFirst = ({ a with inbox := rest }.receive (.changed c)).1 := by
          unfold receiveFirst
          rw [inbox]
        refine .inr ⟨?_, by rw [App.after, first]; exact showing.onward dealing⟩
        rintro set ⟨_, others, set⟩
        rw [inbox] at set
        cases set
  · exact .inr ⟨fun _ dealing => receives dealing.1, showing.onward (move_onward showing.attended receives)⟩

/-- In a run, sets are dealt with after those that have been dealt with before. -/
theorem Showing.run_prefix (showing : Showing a dealt) (moves : List Move) :
    ∃ dealt', Showing (a.run moves) dealt' ∧ dealt <+: dealt' := by
  induction moves generalizing a dealt with
  | nil => exact ⟨dealt, showing, List.prefix_rfl⟩
  | cons m rest ih =>
    rcases showing.after_cases m with ⟨set, _, dealing, _⟩ | ⟨_, still⟩
    · obtain ⟨dealt', later, longer⟩ := ih dealing
      exact ⟨dealt', later, (List.prefix_append ..).trans longer⟩
    · exact ih still

theorem Showing.run (showing : Showing a dealt) (moves : List Move) : ∃ dealt', Showing (a.run moves) dealt' := by
  obtain ⟨dealt', later, _⟩ := showing.run_prefix moves
  exact ⟨dealt', later⟩

/-- An application begins with its engine, an empty table and an empty bar. -/
theorem eq_of_create {e : Engine} {sources : List String} {watched : Bool}
    (started : App.create e sources watched = .ok a) :
    ∃ paths, a = { sources := paths, engine := e, watch := if watched then some {} else none } := by
  unfold App.create at started
  obtain ⟨paths, _, made⟩ := bind_eq_ok_iff.mp started
  cases made
  exact ⟨paths, rfl⟩

theorem showing_create {machine : Machine} {host : Host} {folder : Path} {workspace : Option String} {e : Engine}
    (created : Engine.create machine host folder workspace = .ok e) {sources : List String} {watched : Bool}
    (started : App.create e sources watched = .ok a) : Showing a [] := by
  obtain ⟨_, _, _, _, quiet⟩ := create_eq created
  obtain ⟨paths, rfl⟩ := eq_of_create started
  exact ⟨attended_create created, quiet, Problems.kept_mount, fun _ => rfl, rfl, rfl⟩

/-! ## Nothing is left to deal with -/

/-- The addresses that have diagnostics, in order. -/
def troubled (s : Session) : List String := Problems.troubled s.diagnostics s.published.keys

theorem mem_troubled {s : Session} {uri : String} : uri ∈ troubled s ↔ s.diagnostics uri ≠ [] := by
  rw [troubled, Problems.mem_troubled]
  refine ⟨And.right, fun filled => ⟨?_, filled⟩⟩
  refine Keyed.mem_keys_iff.mpr ?_
  cases found : s.published.get? uri with
  | none =>
    rw [Session.diagnostics, found] at filled
    exact absurd rfl filled
  | some ds => exact ⟨ds, rfl⟩

theorem troubled_congr {s s' : Session} (same : ∀ uri, s'.diagnostics uri = s.diagnostics uri) :
    troubled s' = troubled s :=
  Problems.troubled_congr same (fun _ filled => (Problems.mem_troubled.mp (mem_troubled.mpr filled)).1)
    fun _ filled => (Problems.mem_troubled.mp (mem_troubled.mpr filled)).1

/-- With an empty inbox, the sets of the table are those that the engine remembers. -/
theorem Showing.settled (showing : Showing a dealt) (empty : a.inbox = []) :
    (∀ uri, a.problems.setOf uri = a.engine.session.diagnostics uri) ∧
    Text.sorted a.problems.sets.keys = troubled a.engine.session := by
  have all : setsIn a.engine.trace = dealt := by
    rw [showing.posted, App.posted, empty]
    exact List.append_nil dealt
  have sets (uri : String) : a.problems.setOf uri = a.engine.session.diagnostics uri := by
    rw [showing.sets, showing.attended.displayed.told uri, ← all]
    rfl
  refine ⟨sets, ?_⟩
  rw [showing.kept.sorted_keys]
  exact Problems.troubled_congr sets (fun uri => (showing.kept.mem_keys uri).mpr)
    fun _ filled => (Problems.mem_troubled.mp (mem_troubled.mpr filled)).1

/-- What is shown of a session: a row for each diagnostic of each address that has any. -/
def rowsFor (s : Session) : List (List Cell) :=
  (troubled s).flatMap fun uri => (s.diagnostics uri).map fun d =>
    [.plain (Problems.nameAt uri), .plain (Text.decimalInt d.line), .plain (Text.decimalInt d.column),
      .styled (severityText d.severity), .styled (.of d.summary "")]

/-- With an empty inbox, the table and its counts are those of the engine's session. -/
theorem Showing.view (showing : Showing a dealt) (empty : a.inbox = []) :
    a.problems.rows = rowsFor a.engine.session ∧
    a.problems.all = (troubled a.engine.session).flatMap a.engine.session.diagnostics ∧
    a.bar.errors = a.problems.rows.countP (isRowOf .error) ∧
    a.bar.warnings = a.problems.rows.countP (isRowOf .warning) := by
  obtain ⟨sets, keys⟩ := showing.settled empty
  have same : a.problems.setOf = a.engine.session.diagnostics := funext sets
  have all : a.problems.all = (troubled a.engine.session).flatMap a.engine.session.diagnostics := by
    rw [Problems.all, keys, same]
  have rows : a.problems.rows = Problems.rowsAt a.engine.session.diagnostics (troubled a.engine.session) := by
    have readable : ∀ uri ∈ Text.sorted a.problems.sets.keys, ∃ path, Uri.toPath uri = .ok path := by
      intro uri member
      have seen : ∀ set ∈ dealt, set ∈ setsIn a.engine.trace := by
        rw [showing.posted]
        exact fun set inside => List.mem_append_left _ inside
      obtain ⟨d, _, found⟩ :=
        document_of_dealt showing.attended seen showing.kept showing.sets (Text.mem_sorted.mp member)
      exact ⟨d.path, found⟩
    rw [showing.kept.rows, Problems.rowsOf_readable _ readable, keys, same]
  refine ⟨rows, all, ?_, ?_⟩
  · rw [showing.errors, rows, Problems.countP_rowsAt, all]
  · rw [showing.warnings, rows, Problems.countP_rowsAt, all]

/-- An address with diagnostics is that of an open document, and its rows have the name of the file. -/
theorem nameAt_of_troubled {e : Engine} (attended : Attended e) {uri : String} (member : uri ∈ troubled e.session) :
    ∃ d, e.session.documents.get? uri = some d ∧ Problems.nameAt uri = d.name := by
  have filled := mem_troubled.mp member
  cases found : e.session.published.get? uri with
  | none =>
    rw [Session.diagnostics, found] at filled
    exact absurd rfl filled
  | some ds =>
    obtain ⟨d, held, home, address⟩ := attended.document (attended.displayed.shown uri ds found)
    refine ⟨d, held, Problems.nameAt_of_toPath ?_⟩
    rw [← address, home.located]
    exact Uri.toPath_ofPath_rooted home.rooted

/-- In every run of an application, whenever nothing is left in the inbox, the table has a row for
each diagnostic of each address that the engine remembers any under, by address, with the name of the
file; the list of all diagnostics and the counts are those of the rows. So in two states that
remember the same sets the same is shown, in whatever order the sets have come. -/
theorem view_of_session {machine : Machine} {folder : Path} {workspace : Option String} {e : Engine} {a : App}
    (created : Engine.create machine .display folder workspace = .ok e) {sources : List String} {watched : Bool}
    (started : App.create e sources watched = .ok a) (moves : List Move) (empty : (a.run moves).inbox = []) :
    let now := a.run moves
    let s := now.engine.session
    (troubled s).Pairwise (· < ·) ∧ (∀ uri, uri ∈ troubled s ↔ s.diagnostics uri ≠ []) ∧
    (∀ uri ∈ troubled s, ∃ d, s.documents.get? uri = some d ∧ Problems.nameAt uri = d.name) ∧
    now.problems.rows = rowsFor s ∧ now.problems.all = (troubled s).flatMap s.diagnostics ∧
    now.bar.errors = now.problems.rows.countP (isRowOf .error) ∧
    now.bar.warnings = now.problems.rows.countP (isRowOf .warning) ∧
    ∀ moves', (a.run moves').inbox = [] →
      (∀ uri, (a.run moves').engine.session.diagnostics uri = s.diagnostics uri) →
      (a.run moves').problems.rows = now.problems.rows ∧ (a.run moves').problems.all = now.problems.all ∧
      (a.run moves').bar.errors = now.bar.errors ∧ (a.run moves').bar.warnings = now.bar.warnings := by
  obtain ⟨dealt, showing⟩ := (showing_create created started).run moves
  obtain ⟨rows, all, errors, warnings⟩ := showing.view empty
  refine ⟨Text.pairwise_sorted _, fun _ => mem_troubled, fun _ => nameAt_of_troubled showing.attended, rows, all,
    errors, warnings, ?_⟩
  intro moves' emptyToo same
  obtain ⟨dealt', showing'⟩ := (showing_create created started).run moves'
  obtain ⟨rows', all', errors', warnings'⟩ := showing'.view emptyToo
  have sets : (a.run moves').engine.session.diagnostics = (a.run moves).engine.session.diagnostics := funext same
  have sameRows : (a.run moves').problems.rows = (a.run moves).problems.rows := by
    rw [rows', rows, rowsFor, rowsFor, troubled_congr same, sets]
  refine ⟨sameRows, ?_, ?_, ?_⟩
  · rw [all', all, troubled_congr same, sets]
  · rw [errors', errors, sameRows]
  · rw [warnings', warnings, sameRows]

/-- Whatever has happened, once messages have been delivered the table and its counts are those of the
engine's session. -/
theorem deliver_view {machine : Machine} {folder : Path} {workspace : Option String} {e : Engine} {a b : App}
    (created : Engine.create machine .display folder workspace = .ok e) {sources : List String} {watched : Bool}
    (started : App.create e sources watched = .ok a) {moves : List Move}
    (delivered : (a.run moves).deliver = (b, none)) :
    b.inbox = [] ∧ b.problems.rows = rowsFor b.engine.session ∧
    b.problems.all = (troubled b.engine.session).flatMap b.engine.session.diagnostics ∧
    b.bar.errors = b.problems.rows.countP (isRowOf .error) ∧
    b.bar.warnings = b.problems.rows.countP (isRowOf .warning) := by
  have empty := deliver_empties delivered
  obtain ⟨more, ran⟩ := deliver_run (a.run moves)
  rw [delivered, ← run_append] at ran
  obtain ⟨dealt, showing⟩ := (showing_create created started).run (moves ++ more)
  rw [← ran] at showing
  exact ⟨empty, showing.view empty⟩

/-- The application begins with the source file of the small machine, and the output of its compiler,
which is held back at first, is let through. -/
def shownAtLast : List Move := [.mounted, .turned 0, .released 0, .turned 0, .received]

/-- A new application with a new engine. -/
def launch (machine : Machine) (folder : Path) (workspace : Option String) (sources : List String) (watched : Bool) :
    Except Failure App := do
  let e ← Engine.create machine .display folder workspace
  App.create e sources watched

/-- What can be checked of a new application holds of some new application. -/
theorem exists_launched {machine : Machine} {folder : Path} {workspace : Option String} {sources : List String}
    {watched : Bool} {p : App → Bool}
    (checked : (launch machine folder workspace sources watched).toOption.any p = true) :
    ∃ e a, Engine.create machine .display folder workspace = .ok e ∧ App.create e sources watched = .ok a ∧
      p a = true := by
  obtain ⟨a, made, holds⟩ := exists_ok_of_any checked
  obtain ⟨e, created, started⟩ := bind_eq_ok_iff.mp made
  exact ⟨e, a, created, started, holds⟩

/-- It shows the error, and counts it. -/
theorem view_of_session_shown :
    ∃ e a, Engine.create smallMachine .display ⟨"/", ["home"]⟩ none = .ok e ∧ App.create e ["a.c"] false = .ok a ∧
      (a.run shownAtLast).inbox = [] ∧ (a.run shownAtLast).problems.rows = rowsFor (a.run shownAtLast).engine.session ∧
      (a.run shownAtLast).problems.rows = [[.plain "a.c", .plain "1", .plain "1",
        .styled (severityText .error), .styled (.of "a.c:1:1: error: x" "")]] ∧
      (a.run shownAtLast).bar.errors = 1 := by
  have checked : (launch smallMachine ⟨"/", ["home"]⟩ none ["a.c"] false).toOption.any (fun a =>
      (a.run shownAtLast).inbox = [] ∧
      (a.run shownAtLast).problems.rows = [[.plain "a.c", .plain "1", .plain "1",
        .styled (severityText .error), .styled (.of "a.c:1:1: error: x" "")]]) = true := by
    decide +kernel
  obtain ⟨e, a, created, started, holds⟩ := exists_launched checked
  obtain ⟨empty, rows⟩ := of_decide_eq_true holds
  obtain ⟨_, _, _, same, _, errors, _⟩ := view_of_session created started shownAtLast empty
  refine ⟨e, a, created, started, empty, same, rows, ?_⟩
  rw [errors, rows]
  decide +kernel

end App

end Diagnosis
