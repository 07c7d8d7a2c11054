import Diagnosis.App
import Diagnosis.Proofs.Engine.Home

/-!
# Runs of an application

A run is any sequence of what can happen to an application: it begins or ends, its
files are validated again, a file changes, the engine has a turn, a compiler is let
through, or the first message in the inbox is dealt with. Whatever the engine
publishes meanwhile is posted, in that order.
-/

namespace Diagnosis

open Engine (Attended Registered setsIn setsIn_append trace_after)

namespace App

/-- Something that happens to an application. -/
inductive Move where
  | mounted
  | unmounted
  | revalidated
  /-- Something happened to a file. -/
  | noticed (isDirectory : Bool) (event : FileEvent)
  /-- The first message in the inbox is dealt with. -/
  | received
  /-- The errand at a place of the engine's queue has its turn. -/
  | turned (k : Nat)
  /-- The output comes that a validation waits for. -/
  | released (n : Nat)
  /-- Files and compilers become others. -/
  | moved (machine : Machine)

/-- Deals with the first message. -/
def receiveFirst (a : App) : App :=
  match a.inbox with
  | [] => a
  | m :: rest => ({ a with inbox := rest }.receive m).1

/-- An application after a move. -/
def after (a : App) : Move → App
  | .mounted => a.mount.1
  | .unmounted => a.unmount
  | .revalidated => a.revalidate.1
  | .noticed isDirectory event => (a.notice isDirectory event).1
  | .received => a.receiveFirst
  | .turned k => a.advance (a.engine.turn k)
  | .released n => { a with engine := a.engine.release n }
  | .moved machine => { a with engine := { a.engine with machine } }

/-- An application after moves. -/
def run (a : App) (moves : List Move) : App := moves.foldl after a

theorem run_cons (a : App) (m : Move) (moves : List Move) : a.run (m :: moves) = (a.after m).run moves := rfl

theorem run_append (a : App) (first second : List Move) : a.run (first ++ second) = (a.run first).run second := by
  simp [run]

/-! ## What is posted -/

/-- The set in a message. -/
def set? : Message → Option (String × List Diagnostic)
  | .published uri ds => some (uri, ds)
  | .changed _ => none

/-- The sets that have been posted and not been dealt with. -/
def posted (a : App) : List (String × List Diagnostic) := a.inbox.filterMap set?

theorem set?_messageOf (events : List Event) : (events.filterMap messageOf).filterMap set? = setsIn events := by
  rw [List.filterMap_filterMap, setsIn]
  refine congrArg (List.filterMap · events) (funext fun event => ?_)
  cases event with
  | notice n => cases n <;> rfl
  | _ => rfl

/-- What an application does beside dealing with a set: the engine goes on, what it publishes is
posted, and the table and its counts stay. -/
structure Onward (a a' : App) : Prop where
  attended : Attended a'.engine
  posted : ∃ events, a'.engine.trace = a.engine.trace ++ events ∧ a'.posted = a.posted ++ setsIn events
  problems : a'.problems = a.problems
  errors : a'.bar.errors = a.bar.errors
  warnings : a'.bar.warnings = a.bar.warnings

theorem Onward.refl {a : App} (attended : Attended a.engine) : Onward a a :=
  ⟨attended, ⟨[], by simp⟩, rfl, rfl, rfl⟩

theorem Onward.trans {a a' a'' : App} (first : Onward a a') (second : Onward a' a'') : Onward a a'' := by
  obtain ⟨events, grown, posted⟩ := first.posted
  obtain ⟨more, grownToo, postedToo⟩ := second.posted
  refine ⟨second.attended, ⟨events ++ more, ?_, ?_⟩, second.problems.trans first.problems,
    second.errors.trans first.errors, second.warnings.trans first.warnings⟩
  · rw [grownToo, grown, List.append_assoc]
  · rw [postedToo, posted, setsIn_append, List.append_assoc]

variable {a : App}

theorem advance_onward {e : Engine} (attended : Attended e) (grown : ∃ events, e.trace = a.engine.trace ++ events) :
    Onward a (a.advance e) := by
  obtain ⟨events, grown⟩ := grown
  refine ⟨attended, ⟨events, grown, ?_⟩, rfl, rfl, rfl⟩
  unfold posted advance
  dsimp only
  rw [grown, List.drop_left, List.filterMap_append, set?_messageOf]

/-- A homely move of the engine, and what it published posted. -/
theorem after_onward (attended : Attended a.engine) {m : Engine.Move} (homely : m.Homely) :
    Onward a (a.advance (a.engine.after m)) :=
  advance_onward (attended.after homely) (trace_after attended.registered m)

theorem emit_onward (attended : Attended a.engine) {events : List Event} (quiet : setsIn events = []) :
    Onward a (a.advance (a.engine.emit events)) :=
  advance_onward (attended.emit quiet) ⟨events, rfl⟩

theorem showError_onward (attended : Attended a.engine) (message : String) : Onward a (a.showError message) :=
  emit_onward attended rfl

/-! ## What is done -/

theorem validatePath_onward (attended : Attended a.engine) (path : String) : Onward a (a.validatePath path).1 := by
  have loaded : Onward a (a.advance (a.engine.load path 0).1) :=
    after_onward attended (m := .loaded path 0) trivial
  unfold validatePath
  split <;> rename_i found <;> rw [found] at loaded
  · exact loaded.trans (showError_onward loaded.attended _)
  · exact loaded.trans (showError_onward loaded.attended _)
  · exact loaded
  · rename_i e d
    have home : d.AtHome := Engine.load_atHome (congrArg Prod.snd found)
    have opened : Onward (a.advance e) ((a.advance e).advance (e.openDocument d).1) :=
      after_onward loaded.attended (m := .opened d) home
    obtain ⟨events, grown, _⟩ := (loaded.trans opened).posted
    have both : Onward a (a.advance (e.openDocument d).1) := advance_onward opened.attended ⟨events, grown⟩
    exact both.trans ⟨both.attended, ⟨[], by simp [posted]⟩, rfl, rfl, rfl⟩

theorem validatePaths_onward (attended : Attended a.engine) (paths : List String) :
    Onward a (a.validatePaths paths).1 := by
  induction paths generalizing a with
  | nil => exact .refl attended
  | cons path rest ih =>
    have first := validatePath_onward attended path
    unfold validatePaths
    split <;> rename_i found <;> rw [found] at first
    · exact first
    · exact first.trans (ih first.attended)

theorem startWatching_onward (attended : Attended a.engine) (w : Watch) : Onward a (a.startWatching w).1 := by
  unfold startWatching
  dsimp only
  split
  · exact .refl attended
  · exact ⟨attended, ⟨[], by simp [posted]⟩, rfl, rfl, rfl⟩

theorem mount_onward (attended : Attended a.engine) : Onward a a.mount.1 := by
  have first := validatePaths_onward attended a.sources
  unfold mount revalidate
  split <;> rename_i found <;> rw [found] at first
  · exact first
  · split
    · exact first
    · exact first.trans (startWatching_onward first.attended _)

theorem unmount_onward (attended : Attended a.engine) : Onward a a.unmount := by
  have still : Onward a { a with watch := a.watch.map Watch.stop } :=
    ⟨attended, ⟨[], by simp [posted]⟩, rfl, rfl, rfl⟩
  exact still.trans (after_onward still.attended (m := .shut) trivial)

theorem notice_onward (attended : Attended a.engine) (isDirectory : Bool) (event : FileEvent) :
    Onward a (a.notice isDirectory event).1 := by
  unfold notice
  split
  · exact .refl attended
  · split
    · exact .refl attended
    · rename_i change _
      refine ⟨attended, ⟨[], by simp, ?_⟩, rfl, rfl, rfl⟩
      have nothing : (change.toList.map Message.changed).filterMap set? = [] := by
        cases change <;> rfl
      simp [posted, nothing]

theorem receive_changed_onward (attended : Attended a.engine) (c : Change) : Onward a (a.receive (.changed c)).1 := by
  cases c with
  | saved path => exact validatePath_onward attended path
  | configured path =>
    have logged : Onward a (a.advance (a.engine.tell (.log ("Configuration changed: " ++ path)))) :=
      emit_onward attended rfl
    simp only [receive]
    generalize a.advance (a.engine.tell (.log ("Configuration changed: " ++ path))) = b at logged ⊢
    have changed : Onward a (b.advance b.engine.configurationChanged.1) :=
      logged.trans (after_onward logged.attended (m := .configured) trivial)
    split <;> rename_i found <;> rw [found] at changed <;> exact changed

/-- Every move but dealing with a message lets the application go on in this way. -/
theorem move_onward (attended : Attended a.engine) {m : Move} (other : m ≠ .received) : Onward a (a.after m) := by
  have still {e : Engine} {m : Engine.Move} (homely : m.Homely) (same : e = a.engine.after m)
      (unseen : e.trace = a.engine.trace) : Onward a { a with engine := e } := by
    refine ⟨same ▸ attended.after homely, ⟨[], ?_, ?_⟩, rfl, rfl, rfl⟩
    · rw [List.append_nil, unseen]
    · rw [Engine.setsIn_nil, List.append_nil]
      rfl
  cases m with
  | mounted => exact mount_onward attended
  | unmounted => exact unmount_onward attended
  | revalidated => exact validatePaths_onward attended a.sources
  | noticed isDirectory event => exact notice_onward attended isDirectory event
  | received => exact absurd rfl other
  | turned k => exact after_onward attended (m := .turned k) trivial
  | released n => exact still (m := .released n) trivial rfl rfl
  | moved machine => exact still (m := .moved machine) trivial rfl rfl

end App

end Diagnosis
