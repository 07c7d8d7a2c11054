import Diagnosis.Proofs.Engine.Turn

/-!
# Runs of an engine

A run is any sequence of what can happen to an engine: a trigger, a turn of an
errand anywhere in the queue, a compiler let through, other files. What holds of
every run is proved once for each of these.
-/

namespace Diagnosis

/-- A validation when it has been asked to stop; one that has ended does not hear it. -/
def Validation.asked (v : Validation) : Validation := if v.isDone then v else { v with cancelled := true }

/-- Whether a validation has ended or has been called off. -/
def Validation.Settled (v : Validation) : Prop := v.isDone = true ∨ v.cancelled = true

@[simp] theorem Validation.asked_document (v : Validation) : v.asked.document = v.document := by
  unfold asked; split <;> rfl

@[simp] theorem Validation.asked_phase (v : Validation) : v.asked.phase = v.phase := by
  unfold asked; split <;> rfl

theorem Validation.asked_uncalled {v : Validation} (uncalled : v.asked.cancelled = false) : v.asked = v := by
  unfold asked at uncalled ⊢
  split
  · rfl
  · rename_i undone
    rw [if_neg undone] at uncalled
    cases uncalled

@[simp] theorem Validation.asked_settled (v : Validation) : v.asked.Settled := by
  unfold asked Settled
  by_cases ended : v.isDone = true
  · simp [ended]
  · simp [ended]

@[simp] theorem Validation.asked_asked (v : Validation) : v.asked.asked = v.asked := by
  by_cases ended : v.isDone = true
  · simp [asked, ended]
  · have kept : v.asked = { v with cancelled := true } := by rw [asked, if_neg ended]
    have still : ({ v with cancelled := true } : Validation).isDone ≠ true := ended
    rw [kept, asked, if_neg still]

theorem Validation.settled_or (v : Validation) : v.Settled ∨ v.isDone = false ∧ v.cancelled = false := by
  unfold Settled
  cases v.isDone <;> cases v.cancelled <;> simp

theorem Validation.not_settled {v : Validation} (undone : v.isDone = false) (uncalled : v.cancelled = false) :
    ¬ v.Settled := by
  simp [Settled, undone, uncalled]

theorem Validation.asked_cancelled {v : Validation} (called : v.cancelled = true) : v.asked.cancelled = true := by
  unfold asked
  split
  · exact called
  · rfl

namespace Engine

/-! ## Triggers -/

private theorem modify_congr {α : Type} {l : List α} {n : Nat} {f g : α → α}
    (same : ∀ a, l[n]? = some a → f a = g a) : l.modify n f = l.modify n g := by
  apply List.ext_getElem?
  intro m
  rw [List.getElem?_modify, List.getElem?_modify]
  by_cases here : n = m
  · subst here
    cases found : l[n]? with
    | none => rfl
    | some a => simp [same a found]
  · simp [here]

/-- What a list has after a change of one element is the element that was changed, or was there
before. -/
theorem modify_cases {α : Type} {l : List α} {n m : Nat} {f : α → α} {b : α} (found : (l.modify n f)[m]? = some b) :
    (n = m ∧ ∃ a, l[m]? = some a ∧ b = f a) ∨ n ≠ m ∧ l[m]? = some b := by
  by_cases here : n = m
  · subst here
    rw [List.getElem?_modify_eq, Option.map_eq_map, Option.map_eq_some_iff] at found
    obtain ⟨a, known, rfl⟩ := found
    exact .inl ⟨rfl, a, known, rfl⟩
  · rw [List.getElem?_modify_ne f l here] at found
    exact .inr ⟨here, found⟩

/-- What a list with one more element has was there before, or is that element. -/
theorem concat_cases {α : Type} {l : List α} {a b : α} {n : Nat} (found : (l ++ [a])[n]? = some b) :
    l[n]? = some b ∨ n = l.length ∧ b = a := by
  rw [List.getElem?_append] at found
  split at found
  · exact .inl found
  · rename_i beyond
    obtain ⟨zero, same⟩ := List.getElem?_eq_some_iff.mp found
    rw [List.length_singleton] at zero
    exact .inr ⟨by omega, by rw [← same, List.getElem_singleton]⟩

/-- Calling off a validation asks it to stop, and may give it a turn. -/
theorem cancel_eq (e : Engine) (n : Nat) :
    ∃ queue, e.cancel n = { e with validations := e.validations.modify n Validation.asked, queue } := by
  cases known : e.validations[n]? with
  | none =>
    refine ⟨e.queue, ?_⟩
    rw [cancel, known, List.modify_eq_self (List.getElem?_eq_none_iff.mp known)]
  | some v =>
    obtain ⟨d, p, cancelled⟩ := v
    have marks (unfinished : ∀ o, p ≠ .finished o) :
        e.validations.modify n (fun v => { v with cancelled := true }) = e.validations.modify n Validation.asked := by
      apply modify_congr
      intro v found
      rw [known] at found
      cases found
      cases p with
      | finished o => exact absurd rfl (unfinished o)
      | _ => rfl
    cases p with
    | created =>
      refine ⟨e.queue, ?_⟩
      rw [cancel, known, ← marks (by simp)]
      rfl
    | compiling s reply =>
      rw [cancel, known, ← marks (by simp)]
      dsimp only
      split
      · exact ⟨e.queue, rfl⟩
      · exact ⟨e.queue ++ [.resume n], rfl⟩
    | finished o =>
      refine ⟨e.queue, ?_⟩
      have kept : e.validations.modify n Validation.asked = e.validations := by
        rw [modify_congr (g := id), List.modify_id]
        intro v found
        rw [known] at found
        cases found
        rfl
      rw [cancel, known, kept]

/-- The validations after the one that the registry has for an address has been called off. -/
def calledOffAt (e : Engine) (uri : String) : List Validation :=
  match e.inflight.get? uri with
  | some n => e.validations.modify n Validation.asked
  | none => e.validations

theorem calledOffAt_get (e : Engine) (uri : String) (m : Nat) :
    (e.calledOffAt uri)[m]? =
      e.validations[m]?.map fun v => if e.inflight.get? uri = some m then v.asked else v := by
  unfold calledOffAt
  cases held : e.inflight.get? uri with
  | none => simp
  | some n =>
    simp only [List.getElem?_modify, Option.some.injEq]
    rfl

@[simp] theorem calledOffAt_length (e : Engine) (uri : String) :
    (e.calledOffAt uri).length = e.validations.length := by
  unfold calledOffAt
  split <;> simp

/-- A validation stands where it stood before one was called off, and is as it was if it is not called
off or if the registry has another one for the address. -/
theorem calledOffAt_cases {e : Engine} {uri : String} {n : Nat} {v' : Validation}
    (found : (e.calledOffAt uri)[n]? = some v') :
    ∃ v, e.validations[n]? = some v ∧ v'.document = v.document ∧ v'.phase = v.phase ∧
      (v'.cancelled = false → v' = v) ∧ (e.inflight.get? uri ≠ some n → v' = v) := by
  rw [calledOffAt_get, Option.map_eq_some_iff] at found
  obtain ⟨v, known, rfl⟩ := found
  refine ⟨v, known, ?_⟩
  split
  · exact ⟨v.asked_document, v.asked_phase, Validation.asked_uncalled, fun other => absurd ‹_› other⟩
  · exact ⟨rfl, rfl, fun _ => rfl, fun _ => rfl⟩

theorem supersede_eq (e : Engine) (uri : String) :
    ∃ queue events, noticesIn events = [] ∧
      e.supersede uri = { e with validations := e.calledOffAt uri, queue, trace := e.trace ++ events } := by
  unfold supersede calledOffAt
  cases held : e.inflight.get? uri with
  | none => exact ⟨e.queue, [], rfl, by simp⟩
  | some n =>
    dsimp only
    by_cases ended : e.isDone n = true
    · refine ⟨e.queue, [], rfl, ?_⟩
      have kept : e.validations.modify n Validation.asked = e.validations := by
        rw [modify_congr (g := id), List.modify_id]
        intro v found
        have done : v.isDone = true := by simpa [isDone, found] using ended
        simp [Validation.asked, done]
      simp [ended, kept]
    · obtain ⟨queue, asked⟩ :=
        cancel_eq (e.log .debug ("Superseding in-flight validation of " ++ uri)) n
      exact ⟨queue, _, rfl, by rw [if_neg ended, asked]; rfl⟩

/-- Opening a document calls off what is under way for it, and creates a validation. -/
theorem openDocument_eq (e : Engine) (d : Document) :
    ∃ queue events, noticesIn events = [] ∧
      e.openDocument d = ({ e with
        session := e.session.hold d
        validations := e.calledOffAt d.uri ++ [{ document := d }]
        inflight := e.inflight.put d.uri e.validations.length
        queue
        trace := e.trace ++ events }, e.validations.length) := by
  obtain ⟨queue, events, quiet, superseded⟩ := (e.withSession (e.session.hold d)).supersede_eq d.uri
  refine ⟨queue ++ [.start e.validations.length], events, quiet, ?_⟩
  have length : ((e.withSession (e.session.hold d)).calledOffAt d.uri).length = e.validations.length :=
    calledOffAt_length ..
  unfold openDocument schedule
  rw [superseded]
  dsimp only
  rw [length]
  rfl

/-- After a document has been opened, a validation is one that there was, called off if it has the
address, or the new one. -/
theorem openDocument_cases {e : Engine} {d : Document} {n : Nat} {v : Validation}
    (found : (e.openDocument d).1.validations[n]? = some v) :
    (e.calledOffAt d.uri)[n]? = some v ∨ n = e.validations.length ∧ v = { document := d } := by
  obtain ⟨queue, events, _, opened⟩ := e.openDocument_eq d
  rw [opened] at found
  rw [← e.calledOffAt_length d.uri]
  exact concat_cases found

/-- Closing a document calls off what is under way for it, and forgets everything about it. -/
theorem closeDocument_eq (e : Engine) (uri : String) :
    ∃ queue, (e.closeDocument uri).1 = { e with
      session := e.session.close uri
      validations := e.calledOffAt uri
      inflight := e.inflight.erase uri
      queue
      trace := e.trace ++ [.notice (.publish uri [])] } := by
  unfold closeDocument calledOffAt
  cases held : e.inflight.get? uri with
  | none => exact ⟨e.queue, by rw [Keyed.erase_of_get?_eq_none held]; rfl⟩
  | some n =>
    obtain ⟨queue, asked⟩ := cancel_eq { e with inflight := e.inflight.erase uri } n
    exact ⟨queue, by dsimp only; rw [asked]; rfl⟩

/-- Reading the settings of the user anew fails and changes nothing, or changes the settings and
what is on the disk. -/
theorem reload_cases (e : Engine) :
    (∃ f, e.reload = (e, some f)) ∨
    ∃ machine store events, noticesIn events = [] ∧ e.reload = ({ e with machine, store }.emit events, none) := by
  unfold reload
  cases Settings.Store.load e.machine.tree e.machine.directory e.store.folder with
  | error f => exact .inl ⟨_, rfl⟩
  | ok l =>
    refine .inr ⟨_, _, _, ?_, rfl⟩
    cases l.warning <;> rfl

/-- Reading a file changes nothing but what is remembered of settings. -/
theorem load_keeps (e : Engine) (path : String) (version : Int) :
    ∃ settings, (e.load path version).1 = e.withSession { e.session with settings } := by
  unfold load
  cases e.machine.tree.resolve e.machine.directory path with
  | error f => exact ⟨_, rfl⟩
  | ok p =>
    obtain ⟨settings, kept⟩ := e.settingsFor_keeps (Uri.ofPath p.text) path
    dsimp only
    split <;> rename_i found <;> rw [found] at kept <;> exact ⟨settings, kept⟩

/-- A validation whose output is let through gets its turn. -/
theorem resume_mem_release {e : Engine} {n : Nat} {d : Document} {s : Settings} {reply : Reply} {called : Bool}
    (known : e.validations[n]? = some ⟨d, .compiling s reply, called⟩) :
    .resume n ∈ (e.release n).queue := by
  unfold release
  dsimp only
  rw [List.mem_append]
  by_cases queued : .resume n ∈ e.queue
  · exact .inl queued
  · right
    simp [awaits, known, queued]

/-! ## What triggers keep -/

/-- What the parts of a configuration change keep. -/
structure Stable (P : Engine → Prop) : Prop where
  remembers : ∀ (e : Engine) (settings : Keyed Settings), P e → P (e.withSession { e.session with settings })
  speaks : ∀ (e : Engine) (events : List Event), setsIn events = [] → P e → P (e.emit events)
  moves : ∀ (e : Engine) (machine : Machine) (store : Settings.Store), P e → P { e with machine, store }
  opens : ∀ (e : Engine) (d : Document), P e → P (e.openDocument d).1

namespace Stable

variable {P : Engine → Prop}

theorem load (stable : Stable P) (e : Engine) (path : String) (version : Int) (holds : P e) :
    P (e.load path version).1 := by
  obtain ⟨settings, kept⟩ := e.load_keeps path version
  rw [kept]
  exact stable.remembers e settings holds

theorem revalidate (stable : Stable P) (e : Engine) (d : Document) (holds : P e) : P (e.revalidate d).1 := by
  have loaded := stable.load e d.path d.version holds
  unfold Engine.revalidate
  split <;> rename_i found <;> rw [found] at loaded
  · exact stable.opens _ _ loaded
  · exact stable.speaks _ _ rfl (stable.speaks _ _ rfl loaded)
  · exact stable.opens _ _ (stable.speaks _ _ rfl loaded)
  · exact loaded

theorem revalidateAll (stable : Stable P) (e : Engine) (ds : List Document) (holds : P e) :
    P (e.revalidateAll ds).1 := by
  induction ds generalizing e with
  | nil => exact holds
  | cons d rest ih =>
    have first := stable.revalidate e d holds
    unfold Engine.revalidateAll
    split <;> rename_i came <;> rw [came] at first
    · exact first
    · have others := ih _ first
      split <;> rename_i went <;> rw [went] at others <;> exact others

theorem configurationChanged (stable : Stable P) (e : Engine) (holds : P e) : P e.configurationChanged.1 := by
  unfold Engine.configurationChanged
  rcases e.reload_cases with ⟨f, failed⟩ | ⟨machine, store, events, quiet, reloaded⟩
  · rw [failed]
    exact holds
  · rw [reloaded]
    exact stable.revalidateAll _ _ (stable.remembers _ _
      (stable.speaks _ _ (setsIn_of_noticesIn quiet) (stable.moves e machine store holds)))

end Stable

/-! ## Moves -/

@[simp] theorem run_nil (e : Engine) : e.run [] = e := rfl

theorem run_cons (e : Engine) (m : Move) (moves : List Move) : e.run (m :: moves) = (e.after m).run moves := rfl

theorem run_append (e : Engine) (first second : List Move) :
    e.run (first ++ second) = (e.run first).run second := by
  simp [run]

theorem run_concat (e : Engine) (moves : List Move) (m : Move) : e.run (moves ++ [m]) = (e.run moves).after m := by
  simp [run]

/-- Taking steps is one of the runs. -/
theorem steps_eq_run (count : Nat) (e : Engine) : e.steps count = e.run (List.replicate count (.turned 0)) := by
  induction count generalizing e with
  | zero => rfl
  | succ count ih => rw [steps, ih, step_eq_turn]; rfl

/-- What every move keeps. -/
structure Invariant (P : Engine → Prop) : Prop extends Stable P where
  queues : ∀ (e : Engine) (queue : List Errand), P e → P { e with queue }
  closes : ∀ (e : Engine) (uri : String), P e → P (e.closeDocument uri).1
  turns : ∀ (e : Engine) (k : Nat), P e → P (e.turn k)
  shuts : ∀ e : Engine, P e → P e.shutdown

theorem Invariant.after {P : Engine → Prop} (kept : Invariant P) (e : Engine) (m : Move) (holds : P e) :
    P (e.after m) := by
  cases m with
  | opened d => exact kept.opens e d holds
  | closed uri => exact kept.closes e uri holds
  | configured => exact kept.configurationChanged e holds
  | shut => exact kept.shuts e holds
  | loaded path version => exact kept.load e path version holds
  | consulted d =>
    obtain ⟨settings, same⟩ := e.settingsFor_keeps d.uri d.path
    simp only [Engine.after, same]
    exact kept.remembers e settings holds
  | released n => exact kept.queues _ _ holds
  | turned k => exact kept.turns e k holds
  | moved machine => exact kept.moves e machine e.store holds

theorem Invariant.run {P : Engine → Prop} (kept : Invariant P) (e : Engine) (moves : List Move) (holds : P e) :
    P (e.run moves) := by
  induction moves generalizing e with
  | nil => exact holds
  | cons m rest ih => exact ih (e.after m) (kept.after e m holds)

end Engine

end Diagnosis
