import Diagnosis.Proofs.Engine.Home
import Diagnosis.Proofs.Engine.Outcome

/-!
# The course of an engine

An engine whose documents are opened as they have been read, and are never closed, shows a set just
when a validation ends with one. The documents that are open in it are those that it has validated.
-/

namespace Diagnosis

theorem Validation.isDone_of_finished {v : Validation} {o : Outcome} (ended : v.phase = .finished o) :
    v.isDone = true := by
  rw [isDone, ended]

namespace Engine

variable {e e' e'' : Engine}

/-- An engine goes on by homely moves, and other things than sets are told meanwhile. -/
inductive Proceeds (e : Engine) : Engine → Prop where
  | refl : Proceeds e e
  | moved {e' : Engine} (before : Proceeds e e') {m : Move} (homely : m.Homely) : Proceeds e (e'.after m)
  | told {e' : Engine} (before : Proceeds e e') {events : List Event} (quiet : setsIn events = []) :
      Proceeds e (e'.emit events)

theorem Proceeds.trans (first : Proceeds e e') (second : Proceeds e' e'') : Proceeds e e'' := by
  induction second with
  | refl => exact first
  | moved _ homely ih => exact ih.moved homely
  | told _ quiet ih => exact ih.told quiet

theorem Invariant.proceeds {P : Engine → Prop} (kept : Invariant P) (proceeds : Proceeds e e') (holds : P e) : P e' := by
  induction proceeds with
  | refl => exact holds
  | moved _ _ ih => exact kept.after _ _ ih
  | told _ quiet ih => exact kept.speaks _ _ quiet ih

theorem Proceeds.registered (proceeds : Proceeds e e') (registered : Registered e) : Registered e' ∧ Keeps e e' :=
  (registered_invariant e).proceeds proceeds ⟨registered, .refl e⟩

theorem Proceeds.attended (proceeds : Proceeds e e') (attended : Attended e) : Attended e' := by
  induction proceeds with
  | refl => exact attended
  | moved _ homely ih => exact ih.after homely
  | told _ quiet ih => exact ih.emit quiet

/-! ## What is open -/

/-- The documents that are open are those of the validations, under each address that of the last one,
and have been opened as they were read. -/
structure Recorded (e : Engine) : Prop where
  documents : e.session.documents =
    (e.validations.map (·.document)).foldl (fun (documents : Keyed Document) d => documents.put d.uri d) []
  home : ∀ v ∈ e.validations, v.document.AtHome

theorem Proceeds.recorded (proceeds : Proceeds e e') (attended : Attended e) (recorded : Recorded e) : Recorded e' := by
  induction proceeds with
  | refl => exact recorded
  | told _ _ ih => exact ⟨ih.documents, ih.home⟩
  | @moved e' before m homely ih =>
    have attendedToo := before.attended attended
    obtain ⟨ds, home, documents, validations⟩ := documents_after attendedToo.registered attendedToo.housed homely
    refine ⟨by rw [documents, ih.documents, validations, List.foldl_append], fun v member => ?_⟩
    have known : v.document ∈ (e'.after m).validations.map (·.document) := List.mem_map_of_mem member
    rw [validations, List.mem_append] at known
    rcases known with old | new
    · obtain ⟨w, inside, same⟩ := List.mem_map.mp old
      rw [← same]
      exact ih.home w inside
    · exact home _ new

theorem recorded_create {machine : Machine} {host : Host} {folder : Path} {workspace : Option String}
    (created : create machine host folder workspace = .ok e) : Recorded e := by
  obtain ⟨validations, _, _, session, _⟩ := create_eq created
  refine ⟨by rw [session, validations]; rfl, fun v member => ?_⟩
  rw [validations] at member
  exact absurd member List.not_mem_nil

theorem Recorded.mem_openDocuments (recorded : Recorded e) {d : Document} (opened : d ∈ e.openDocuments) :
    ∃ v ∈ e.validations, v.document = d := by
  obtain ⟨entry, member, rfl⟩ := List.mem_map.mp opened
  rw [recorded.documents] at member
  rcases Keyed.mem_foldl_put member with nothing | ⟨d, inside, rfl⟩
  · cases nothing
  · exact List.mem_map.mp inside

/-- What has been validated is open, maybe with a later text. -/
theorem Recorded.isOpen (recorded : Recorded e) (housed : Housed e) {v : Validation} (member : v ∈ e.validations) :
    ∃ d ∈ e.openDocuments, d.uri = v.document.uri ∧ d.path = v.document.path := by
  have opened : (e.session.documents.get? v.document.uri).isSome = true := by
    obtain ⟨before, after, split⟩ := List.append_of_mem member
    rw [recorded.documents, split, List.map_append, List.foldl_append, List.map_cons, List.foldl_cons]
    refine Keyed.isSome_foldl_put ?_
    rw [Keyed.get?_put_self]
    rfl
  obtain ⟨d, found⟩ := Option.isSome_iff_exists.mp opened
  have inside := Keyed.mem_of_get? found
  obtain ⟨address, home⟩ := housed _ inside
  refine ⟨d, List.mem_map_of_mem (f := Prod.snd) inside, address, Uri.ofPath_injective ?_⟩
  rw [← home.located, ← (recorded.home v member).located]
  exact address

/-- The paths that documents are open under are those that have been validated. -/
theorem Recorded.exists_open_iff (recorded : Recorded e) (housed : Housed e) (P : String → Prop) :
    (∃ d ∈ e.openDocuments, P d.path) ↔ ∃ v ∈ e.validations, P v.document.path := by
  constructor
  · rintro ⟨d, opened, holds⟩
    obtain ⟨v, member, rfl⟩ := recorded.mem_openDocuments opened
    exact ⟨v, member, holds⟩
  · rintro ⟨v, member, holds⟩
    obtain ⟨d, opened, _, path⟩ := recorded.isOpen housed member
    exact ⟨d, opened, by rwa [path]⟩

/-! ## Sets and the validations that end with them -/

/-- A validation that there was not yet, or that had not ended, has ended with a set since. -/
def PublishedSince (e e' : Engine) : Prop :=
  ∃ (n : Nat) (v : Validation) (ds : List Diagnostic), e'.validations[n]? = some v ∧
    v.phase = .finished (.published ds) ∧ ∀ w, e.validations[n]? = some w → w.isDone = false

/-- What has been published since the beginning has been published in the first part or in the
second. -/
theorem publishedSince_iff (keeps : Keeps e e') (keepsOn : Keeps e' e'') :
    PublishedSince e e'' ↔ PublishedSince e e' ∨ PublishedSince e' e'' := by
  constructor
  · rintro ⟨n, v, ds, known, ended, fresh⟩
    by_cases early : ∃ w, e'.validations[n]? = some w ∧ w.isDone = true
    · obtain ⟨w, found, done⟩ := early
      obtain ⟨x, last, ages⟩ := keepsOn n w found
      rw [known, Option.some.injEq] at last
      rw [← last] at ages
      have same := ages.ended done
      subst same
      exact .inl ⟨n, v, ds, found, ended, fresh⟩
    · refine .inr ⟨n, v, ds, known, ended, fun w found => ?_⟩
      by_contra done
      exact early ⟨w, found, eq_true_of_ne_false done⟩
  · rintro (⟨n, v, ds, known, ended, fresh⟩ | ⟨n, v, ds, known, ended, fresh⟩)
    · obtain ⟨x, last, ages⟩ := keepsOn n v known
      have same := ages.ended (Validation.isDone_of_finished ended)
      subst same
      exact ⟨n, x, ds, last, ended, fresh⟩
    · refine ⟨n, v, ds, known, ended, fun w found => ?_⟩
      obtain ⟨x, later, ages⟩ := keeps n w found
      by_contra done
      have same := ages.ended (eq_true_of_ne_false done)
      subst same
      exact done (fresh x later)

/-- A turn on a pass shows a set if and only if the pass ends with one. A host that displays everything
is told of nothing else but a failure. -/
theorem Working.comes_to {m : Move} {errand : Errand} {d : Document} {p p' : Phase} {shown : Option (List Diagnostic)}
    (working : Working e m errand d p p' shown) (display : e.host = .display) :
    (shown = none ∧ ∀ o, p' = .finished o → o = .failed) ∨
    ∃ ds, shown = some ds ∧ p' = .finished (.published ds) := by
  obtain ⟨k, rfl, queued⟩ := working.turn
  obtain ⟨events, grown, sets⟩ := working.seen
  have found : (e.turn k).validations[errand.number]? = some ⟨d, p', false⟩ := by
    have validations := working.validations
    rw [Engine.after] at validations
    rw [validations, setPhase, List.getElem?_modify_eq, working.known]
    rfl
  have unshown (untold : ∃ events, (e.turn k).trace = e.trace ++ events ∧ setsIn events = []) : shown = none := by
    obtain ⟨events', grown', none⟩ := untold
    have same := List.append_cancel_left (grown.symm.trans grown')
    rw [same, none] at sets
    cases shown with
    | none => rfl
    | some ds => cases sets
  have ends {ending : Ending} (ended : Ends e (e.turn k) errand.number d ending)
      (finished : p' = .finished (ending.outcomeAt e.host d)) :
      (shown = none ∧ ∀ o, p' = .finished o → o = .failed) ∨
      ∃ ds, shown = some ds ∧ p' = .finished (.published ds) := by
    have accepted : ending.refusal? e.host d = none := by
      rw [display]
      exact ending.refusal?_display d
    rw [Ending.outcomeAt_of_accepted accepted] at finished
    cases ending with
    | reported limit r => exact .inr ⟨_, working.ended _ finished, finished⟩
    | uncompiled fault => exact .inr ⟨_, working.ended _ finished, finished⟩
    | failed f =>
      obtain ⟨events', grown', told⟩ := ended.seen
      rw [Ending.noticesAt_of_accepted accepted] at told
      refine .inl ⟨unshown ⟨events', grown', setsIn_of_error told⟩, fun o same => ?_⟩
      rw [finished] at same
      cases same
      rfl
  cases turn_went queued found rfl with
  | rested known rests =>
    obtain ⟨events', grown', untold⟩ := (rests d.uri).untold
    refine .inl ⟨unshown ⟨events', grown', setsIn_of_noticesIn untold⟩, fun o finished => ?_⟩
    -- a pass that has ended has no turn left
    have unfinished := working.progress.unfinished false
    rw [working.known, Option.some.injEq] at known
    rw [known, Validation.isDone_of_finished finished] at unfinished
    cases unfinished
  | waits starts ending begun held waits =>
    obtain ⟨events', grown', untold⟩ := waits.seen
    refine .inl ⟨unshown ⟨events', grown', setsIn_of_noticesIn untold⟩, fun o finished => ?_⟩
    cases finished
  | ended starts ended => exact ends ended rfl
  | answered known same ended => exact ends ended rfl

/-- Sets are shown in a run just if something has been published since. -/
structure Discloses (e e' : Engine) : Prop where
  keeps : Keeps e e'
  seen : ∃ events, e'.trace = e.trace ++ events ∧ (setsIn events = [] ↔ ¬ PublishedSince e e')

theorem Discloses.trans (first : Discloses e e') (second : Discloses e' e'') : Discloses e e'' where
  keeps := first.keeps.trans second.keeps
  seen := by
    obtain ⟨events, grown, sets⟩ := first.seen
    obtain ⟨more, later, setsToo⟩ := second.seen
    refine ⟨events ++ more, by rw [later, grown, List.append_assoc], ?_⟩
    rw [setsIn_append, List.append_eq_nil_iff, sets, setsToo, publishedSince_iff first.keeps second.keeps, not_or]

/-- Where no pass goes on, nothing is published. -/
theorem discloses_resting (keeps : Keeps e e') (resting : Resting e e') (quiet : Quiet e e') : Discloses e e' where
  keeps := keeps
  seen := by
    obtain ⟨events, grown, none⟩ := quiet
    refine ⟨events, grown, iff_of_true none ?_⟩
    rintro ⟨n, v, ds, known, ended, fresh⟩
    obtain ⟨w, found, _, phase⟩ := resting.stood known ended nofun nofun
    have done := Validation.isDone_of_finished phase
    rw [fresh w found] at done
    cases done

theorem discloses_working {m : Move} {errand : Errand} {d : Document} {p p' : Phase} {shown : Option (List Diagnostic)}
    (keeps : Keeps e (e.after m)) (working : Working e m errand d p p' shown) (display : e.host = .display) :
    Discloses e (e.after m) where
  keeps := keeps
  seen := by
    obtain ⟨events, grown, sets⟩ := working.seen
    refine ⟨events, grown, ?_⟩
    rw [sets]
    rcases working.comes_to display with ⟨rfl, unpublished⟩ | ⟨ds, rfl, finished⟩
    · refine iff_of_true rfl ?_
      rintro ⟨n, v, ds, known, ended, fresh⟩
      rcases working.validation_cases known with ⟨_, rfl⟩ | ⟨_, found⟩
      · cases unpublished _ ended
      · have done := Validation.isDone_of_finished ended
        rw [fresh v found] at done
        cases done
    · refine iff_of_false (List.cons_ne_nil _ _) (not_not.mpr ?_)
      refine ⟨errand.number, ⟨d, p', false⟩, ds, ?_, finished, fun w found => ?_⟩
      · rw [working.validations, setPhase, List.getElem?_modify_eq, working.known]
        rfl
      · rw [working.known, Option.some.injEq] at found
        rw [← found]
        exact working.progress.unfinished false

/-- In a run that closes no document, the sets that a host shows that accepts everything are those that
validations end with. -/
theorem Proceeds.discloses (proceeds : Proceeds e e') (registered : Registered e) (host : e.host = .display) :
    Discloses e e' := by
  induction proceeds with
  | refl => exact discloses_resting (.refl e) (.refl e) (.refl e)
  | @told e' before events quiet ih =>
    exact ih.trans (discloses_resting (Keeps.refl e') (Resting.refl e') ⟨events, rfl, quiet⟩)
  | @moved e' before m homely ih =>
    have display : e'.host = .display := (host_invariant .display).proceeds before host
    have registeredToo := (before.registered registered).1
    have keeps : Keeps e' (e'.after m) := registeredToo.keeps [m]
    refine ih.trans ?_
    rcases after_cases registeredToo m with ⟨resting, quiet | ⟨uri, rfl, _⟩⟩ | ⟨errand, d, p, p', shown, working⟩
    · exact discloses_resting keeps resting quiet
    · exact homely.elim
    · exact discloses_working keeps working display

/-- No validation has had its set refused. -/
def Unrefused (e : Engine) : Prop :=
  ∀ (n : Nat) (v : Validation), e.validations[n]? = some v → ∀ message, v.phase ≠ .finished (.refused message)

theorem Proceeds.unrefused (proceeds : Proceeds e e') (registered : Registered e) (host : e.host = .display)
    (unrefused : Unrefused e) : Unrefused e' := by
  induction proceeds with
  | refl => exact unrefused
  | told before quiet ih => exact ih
  | @moved e' before m homely ih =>
    have display : e'.host = .display := (host_invariant .display).proceeds before host
    intro n v known message refused
    rcases after_cases (before.registered registered).1 m with ⟨resting, _⟩ | ⟨errand, d, p, p', shown, working⟩
    · obtain ⟨w, found, _, phase⟩ := resting.stood known refused nofun nofun
      exact ih n w found message phase
    · rcases working.validation_cases known with ⟨_, rfl⟩ | ⟨_, found⟩
      · change p' = .finished (.refused message) at refused
        rcases working.comes_to display with ⟨_, failed⟩ | ⟨ds, _, published⟩
        · cases failed _ refused
        · rw [published] at refused
          cases refused
      · exact ih n v found message refused

/-- Where all passes have ended and nothing has been published since, those that had not ended have
failed or have been called off. -/
theorem not_publishedSince_iff (unrefused : Unrefused e') (ended : ∀ v ∈ e'.validations, v.isDone = true) :
    ¬ PublishedSince e e' ↔ ∀ (n : Nat) (v : Validation), e'.validations[n]? = some v →
      (∀ w, e.validations[n]? = some w → w.isDone = false) →
      v.phase = .finished .failed ∨ v.phase = .finished .cancelled := by
  constructor
  · intro unpublished n v known fresh
    have done := ended v (List.mem_of_getElem? known)
    unfold Validation.isDone at done
    split at done
    · rename_i o finished
      cases o with
      | published ds => exact absurd ⟨n, v, ds, known, finished, fresh⟩ unpublished
      | failed => exact .inl finished
      | cancelled => exact .inr finished
      | refused message => exact absurd finished (unrefused n v known message)
    · cases done
  · rintro fruitless ⟨n, v, ds, known, finished, fresh⟩
    rcases fruitless n v known fresh with failed | cancelled
    · rw [failed] at finished
      cases finished
    · rw [cancelled] at finished
      cases finished

end Engine

end Diagnosis
