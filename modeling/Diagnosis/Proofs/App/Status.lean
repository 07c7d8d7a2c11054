import Diagnosis.Proofs.App.Course
import Diagnosis.Proofs.App.View

/-!
# What the status says

The bar says that files are validated from the time that the application has a file validated until
it deals with a set. A pass that fails or is called off brings no set, so that after such passes alone
the bar goes on to say so when there is nothing left to wait for.
-/

namespace Diagnosis.App

open Diagnosis.Engine (Discloses PublishedSince setsIn setsIn_append)

variable {a a' a'' : App} {dealt : List (String × List Diagnostic)}

/-! ## Who sets the status -/

/-- The application reads files to have them validated: it begins, the user wants it, or one was saved. -/
def Asks (a : App) : Move → Prop
  | .mounted | .revalidated => True
  | .received => ∃ path rest, a.inbox = .changed (.saved path) :: rest
  | _ => False

/-- In a move the application itself has files validated, which is not so when the settings change. -/
def Validates (a : App) (m : Move) : Prop :=
  a.Asks m ∧ a.engine.validations.length < (a.after m).engine.validations.length

/-- Either no validation is triggered and the status stays, or one is and the status says so. -/
def Announces (a a' : App) : Prop :=
  a'.engine.validations.length = a.engine.validations.length ∧ a'.bar.status = a.bar.status ∨
  a.engine.validations.length < a'.engine.validations.length ∧ a'.bar.status = "validating"

theorem Announces.refl (a : App) : Announces a a := .inl ⟨rfl, rfl⟩

theorem Announces.trans (first : Announces a a') (second : Announces a' a'') : Announces a a'' := by
  rcases second with ⟨length, status⟩ | ⟨longer, status⟩
  · rcases first with ⟨lengthToo, statusToo⟩ | ⟨longerToo, statusToo⟩
    · exact .inl ⟨length.trans lengthToo, status.trans statusToo⟩
    · exact .inr ⟨by omega, status.trans statusToo⟩
  · refine .inr ⟨?_, status⟩
    rcases first with ⟨lengthToo, _⟩ | ⟨longerToo, _⟩
    · omega
    · omega

theorem validatePath_announces (a : App) (path : String) : Announces a (a.validatePath path).1 := by
  obtain ⟨settings, loaded⟩ := a.engine.load_keeps path 0
  have length : (a.engine.load path 0).1.validations.length = a.engine.validations.length := by
    rw [loaded]
    rfl
  unfold validatePath
  split <;> rename_i found <;> rw [found] at length
  · exact .inl ⟨length, rfl⟩
  · exact .inl ⟨length, rfl⟩
  · exact .inl ⟨length, rfl⟩
  · rename_i e d
    obtain ⟨queue, events, _, opened⟩ := e.openDocument_eq d
    refine .inr ⟨?_, rfl⟩
    change a.engine.validations.length < (e.openDocument d).1.validations.length
    rw [opened, List.length_append, Engine.calledOffAt_length]
    exact Nat.lt_succ_of_le (Nat.le_of_eq length.symm)

theorem validatePaths_announces (a : App) (paths : List String) : Announces a (a.validatePaths paths).1 := by
  induction paths generalizing a with
  | nil => exact .refl a
  | cons path rest ih =>
    have first := validatePath_announces a path
    unfold validatePaths
    split <;> rename_i found <;> rw [found] at first
    · exact first
    · exact first.trans (ih _)

theorem mount_announces (a : App) : Announces a a.mount.1 := by
  have first := validatePaths_announces a a.sources
  unfold mount revalidate
  split <;> rename_i found <;> rw [found] at first
  · exact first
  · split
    · exact first
    · refine first.trans ?_
      unfold startWatching
      dsimp only
      split
      · exact .refl _
      · exact .inl ⟨rfl, rfl⟩

theorem Announces.status_cases {m : Move} (announces : Announces a (a.after m)) (asks : a.Asks m) :
    a.Validates m ∧ (a.after m).bar.status = "validating" ∨
    ¬ a.Validates m ∧ (a.after m).bar.status = a.bar.status := by
  rcases announces with ⟨length, status⟩ | ⟨longer, status⟩
  · refine .inr ⟨fun validates => ?_, status⟩
    have longer := validates.2
    omega
  · exact .inl ⟨⟨asks, longer⟩, status⟩

/-- Beside dealing with sets, only the application's own validating sets the status. -/
theorem status_after {m : Move} (other : ∀ set, ¬ a.DealsWith m set) :
    a.Validates m ∧ (a.after m).bar.status = "validating" ∨
    ¬ a.Validates m ∧ (a.after m).bar.status = a.bar.status := by
  have still (silent : ¬ a.Asks m) (status : (a.after m).bar.status = a.bar.status) :
      a.Validates m ∧ (a.after m).bar.status = "validating" ∨
      ¬ a.Validates m ∧ (a.after m).bar.status = a.bar.status :=
    .inr ⟨fun validates => silent validates.1, status⟩
  cases m with
  | mounted => exact (mount_announces a).status_cases trivial
  | revalidated => exact (validatePaths_announces a a.sources).status_cases trivial
  | unmounted => exact still id rfl
  | turned k => exact still id rfl
  | released n => exact still id rfl
  | moved machine => exact still id rfl
  | noticed isDirectory event =>
    refine still id ?_
    simp only [App.after, notice]
    split
    · rfl
    · split <;> rfl
  | received =>
    cases inbox : a.inbox with
    | nil =>
      refine still ?_ ?_
      · rintro ⟨path, rest, first⟩
        rw [inbox] at first
        cases first
      · simp only [App.after, receiveFirst, inbox]
    | cons message rest =>
      cases message with
      | published uri ds => exact absurd ⟨rfl, rest, inbox⟩ (other (uri, ds))
      | changed c =>
        cases c with
        | saved path =>
          refine Announces.status_cases ?_ ⟨path, rest, inbox⟩
          simp only [App.after, receiveFirst, inbox]
          exact validatePath_announces { a with inbox := rest } path
        | configured path =>
          refine still ?_ ?_
          · rintro ⟨path, rest, first⟩
            rw [inbox] at first
            cases first
          · simp only [App.after, receiveFirst, inbox, receive]
            split <;> rfl

/-! ## Runs -/

/-- The sets that have been dealt with are those that are no longer posted. -/
theorem Showing.unique {dealt' : List (String × List Diagnostic)} (showing : Showing a dealt)
    (showing' : Showing a dealt') : dealt = dealt' :=
  List.append_cancel_right (showing.posted.symm.trans showing'.posted)

/-- The application has had files validated, and has dealt with no set since. -/
def Awaits (a : App) (moves : List Move) (dealt : List (String × List Diagnostic)) : Prop :=
  ∃ before m later, moves = before ++ m :: later ∧ (a.run before).Validates m ∧
    Showing ((a.run before).after m) dealt

theorem awaits_concat_iff (a : App) (moves : List Move) (m : Move) (dealt : List (String × List Diagnostic)) :
    Awaits a (moves ++ [m]) dealt ↔
      Awaits a moves dealt ∨ (a.run moves).Validates m ∧ Showing ((a.run moves).after m) dealt := by
  constructor
  · rintro ⟨before, m', later, split, validates, showing⟩
    rcases List.eq_nil_or_concat later with rfl | ⟨earlier, last, rfl⟩
    · obtain ⟨rfl, same⟩ := List.append_inj' split rfl
      cases same
      exact .inr ⟨validates, showing⟩
    · have whole : moves ++ [m] = (before ++ m' :: earlier) ++ [last] := by rw [split]; simp
      exact .inl ⟨before, m', earlier, (List.append_inj' whole rfl).1, validates, showing⟩
  · rintro (⟨before, m', later, rfl, validates, showing⟩ | ⟨validates, showing⟩)
    · exact ⟨before, m', later ++ [m], by simp, validates, showing⟩
    · exact ⟨moves, m, [], rfl, validates, showing⟩

/-- The bar says that files are validated just if the application has had some validated and has dealt
with no set since. -/
theorem status_run (showing : Showing a []) (idle : a.bar.status ≠ "validating") (moves : List Move) :
    ∃ dealt, Showing (a.run moves) dealt ∧
      ((a.run moves).bar.status = "validating" ↔ Awaits a moves dealt) := by
  induction moves using List.reverseRecOn with
  | nil =>
    refine ⟨[], showing, iff_of_false idle ?_⟩
    rintro ⟨before, m, later, split, _⟩
    cases before <;> cases split
  | append_singleton moves m ih =>
    obtain ⟨dealt, shown, reads⟩ := ih
    have last : a.run (moves ++ [m]) = (a.run moves).after m := run_append a moves [m]
    rw [last]
    rcases shown.after_cases m with ⟨set, dealing, after, status⟩ | ⟨other, after⟩
    · refine ⟨_, after, iff_of_false (by rw [status]; decide) fun awaits => ?_⟩
      rcases (awaits_concat_iff a moves m _).mp awaits with ⟨before, m', later, rfl, _, early⟩ | ⟨validates, _⟩
      · -- a set that has been dealt with now had not been dealt with before
        obtain ⟨dealt', later', longer⟩ := early.run_prefix later
        rw [run_append] at shown
        rw [← shown.unique later'] at longer
        have short := longer.length_le
        rw [List.length_append, List.length_singleton] at short
        omega
      · obtain ⟨rfl, rest, first⟩ := dealing
        obtain ⟨path, others, same⟩ := validates.1
        rw [first] at same
        cases same
    · refine ⟨dealt, after, ?_⟩
      rw [awaits_concat_iff]
      rcases status_after other with ⟨validates, status⟩ | ⟨silent, status⟩
      · exact iff_of_true status (.inr ⟨validates, after⟩)
      · rw [status, reads]
        exact ⟨.inl, fun awaits => awaits.resolve_right fun both => silent both.1⟩

/-- With an empty inbox no set has been dealt with since some time just if none was posted then and
nothing has been published since. -/
theorem showing_since_iff (showing : Showing a dealt) {dealt' : List (String × List Diagnostic)}
    (showing' : Showing a' dealt') (empty : a'.inbox = []) (discloses : Discloses a.engine a'.engine) :
    dealt = dealt' ↔ a.posted = [] ∧ ¬ PublishedSince a.engine a'.engine := by
  obtain ⟨events, grown, sets⟩ := discloses.seen
  have all : dealt' = dealt ++ (a.posted ++ setsIn events) := by
    have nothing : a'.posted = [] := by rw [posted, empty, List.filterMap_nil]
    have sets' := showing'.posted
    rw [grown, setsIn_append, showing.posted, nothing, List.append_assoc, List.append_nil] at sets'
    exact sets'.symm
  rw [← sets, ← List.append_eq_nil_iff, all]
  exact List.self_eq_append_right

/-- When every pass has ended and nothing is left in the inbox, the bar goes on to say that files are
validated just if the application has had some validated while no set was posted, and of the passes
that had not ended by then each has failed or been called off. -/
theorem status_validating_iff {machine : Machine} {folder : Path} {workspace : Option String} {e : Engine} {a : App}
    (created : Engine.create machine .display folder workspace = .ok e) {sources : List String} {watched : Bool}
    (started : App.create e sources watched = .ok a) (moves : List Move) (empty : (a.run moves).inbox = [])
    (ended : ∀ v ∈ (a.run moves).engine.validations, v.isDone = true) :
    (a.run moves).bar.status = "validating" ↔
      ∃ before m later, moves = before ++ m :: later ∧ (a.run before).Validates m ∧
        ((a.run before).after m).posted = [] ∧
        ∀ (n : Nat) (v : Validation), (a.run moves).engine.validations[n]? = some v →
          (∀ w, ((a.run before).after m).engine.validations[n]? = some w → w.isDone = false) →
          v.phase = .finished .failed ∨ v.phase = .finished .cancelled := by
  obtain ⟨engine, bar⟩ : a.engine = e ∧ a.bar = {} := by
    obtain ⟨paths, rfl⟩ := eq_of_create started
    exact ⟨rfl, rfl⟩
  have start : Showing a [] := showing_create created started
  have registered := start.attended.registered
  have host : a.engine.host = .display := by rw [engine, Engine.create_host created]
  have unrefused : Engine.Unrefused a.engine := by
    intro n v known
    rw [engine, (Engine.create_eq created).1] at known
    cases known
  obtain ⟨dealt, showing, reads⟩ := status_run start (by rw [bar]; decide) moves
  rw [reads]
  refine exists_congr fun before => exists_congr fun m => exists_congr fun later => and_congr_right fun split =>
    and_congr_right fun _ => ?_
  have whole : a.run moves = ((a.run before).after m).run later := by
    rw [split, run_append]
    rfl
  have early : Engine.Proceeds a.engine ((a.run before).after m).engine :=
    (run_proceeds a before).trans (move_proceeds _ m)
  have late : Engine.Proceeds ((a.run before).after m).engine (a.run moves).engine := by
    rw [whole]
    exact run_proceeds _ later
  have display := (Engine.host_invariant .display).proceeds early host
  have discloses := late.discloses (early.registered registered).1 display
  rw [← Engine.not_publishedSince_iff ((run_proceeds a moves).unrefused registered host unrefused) ended]
  obtain ⟨dealt', shown⟩ := start.run (before ++ [m])
  rw [run_append] at shown
  change Showing ((a.run before).after m) dealt' at shown
  rw [← showing_since_iff shown showing empty discloses]
  exact ⟨fun also => shown.unique also, fun same => same ▸ shown⟩

/-- The small machine with a setting that asks for a workspace. -/
def unsettledMachine : Machine :=
  let bytes := Encoding.Utf8.encode "\x7b\"includePath.relative\": [\"x\"]\x7d".toList
  { Engine.smallMachine with tree := ⟨Engine.smallMachine.tree.entries ++ [([".cccdiag.json"], .file bytes)]⟩ }

/-- Without a workspace, the only pass fails, and the bar goes on to say that files are validated. -/
theorem status_validating_iff_unsettled :
    ∃ e a, Engine.create unsettledMachine .display ⟨"/", ["home"]⟩ none = .ok e ∧
      App.create e ["a.c"] false = .ok a ∧ (a.run [.mounted, .turned 0]).bar.status = "validating" ∧
      ∃ before m later, [.mounted, .turned 0] = before ++ m :: later ∧ (a.run before).Validates m ∧
        ((a.run before).after m).posted = [] ∧
        ∀ (n : Nat) (v : Validation), (a.run [.mounted, .turned 0]).engine.validations[n]? = some v →
          (∀ w, ((a.run before).after m).engine.validations[n]? = some w → w.isDone = false) →
          v.phase = .finished .failed ∨ v.phase = .finished .cancelled := by
  have checked : (launch unsettledMachine ⟨"/", ["home"]⟩ none ["a.c"] false).toOption.any (fun a =>
      (a.run [.mounted, .turned 0]).inbox = [] ∧
      (∀ v ∈ (a.run [.mounted, .turned 0]).engine.validations, v.isDone = true) ∧
      (a.run [.mounted, .turned 0]).bar.status = "validating") = true := by
    decide +kernel
  obtain ⟨e, a, created, started, holds⟩ := exists_launched checked
  obtain ⟨empty, ended, status⟩ := of_decide_eq_true holds
  exact ⟨e, a, created, started, status, (status_validating_iff created started _ empty ended).mp status⟩

end Diagnosis.App
