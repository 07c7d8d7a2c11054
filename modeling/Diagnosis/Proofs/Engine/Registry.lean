import Diagnosis.Proofs.Engine.Move
import Diagnosis.Proofs.Result

/-!
# The registry

Of all validations of a document at most one is neither ended nor called off, and
the registry knows it; no validation of the document has been triggered after it.
-/

namespace Diagnosis.Engine

/-! ## Validations that are under way -/

/-- A validation of a document is under way: it has neither ended nor been called off. -/
def Live (e : Engine) (uri : String) (n : Nat) : Prop :=
  ∃ v, e.validations[n]? = some v ∧ v.document.uri = uri ∧ v.isDone = false ∧ v.cancelled = false

/-- The registry has every validation that is under way, and has only validations of the right
document that were triggered last. -/
structure Registered (e : Engine) : Prop where
  live : ∀ uri n, e.Live uri n → e.inflight.get? uri = some n
  entry : ∀ uri n, e.inflight.get? uri = some n → ∃ v, e.validations[n]? = some v ∧ v.document.uri = uri
  latest : ∀ uri n, e.inflight.get? uri = some n →
    ∀ m v, e.validations[m]? = some v → v.document.uri = uri → m ≤ n

theorem Registered.of_same {e e' : Engine} (registered : Registered e) (validations : e'.validations = e.validations)
    (inflight : e'.inflight = e.inflight) : Registered e' := by
  constructor
  · intro uri n live
    rw [inflight]
    rw [Live, validations] at live
    exact registered.live uri n live
  · rw [inflight, validations]; exact registered.entry
  · rw [inflight, validations]; exact registered.latest

/-- The registry may lose an address whose validation has ended or been called off. -/
theorem Registered.erase {e : Engine} (registered : Registered e) (uri : String) (settled : ∀ n, ¬ e.Live uri n) :
    Registered { e with inflight := e.inflight.erase uri } := by
  constructor
  · intro uri' n live
    by_cases same : uri' = uri
    · subst same; exact absurd live (settled n)
    · exact (Keyed.get?_erase_of_ne same _).trans (registered.live uri' n live)
  · exact fun uri' n held => registered.entry uri' n (Keyed.get?_of_get?_erase held)
  · exact fun uri' n held => registered.latest uri' n (Keyed.get?_of_get?_erase held)

/-- Changing one validation keeps the registry, as long as its document stays and it does not come
to life again. -/
theorem Registered.modify {e : Engine} (registered : Registered e) {n : Nat} {f : Validation → Validation}
    (document : ∀ v, (f v).document = v.document)
    (settled : ∀ v, e.validations[n]? = some v → v.Settled → (f v).Settled) :
    Registered { e with validations := e.validations.modify n f } := by
  have back {m : Nat} {v' : Validation} (found : (e.validations.modify n f)[m]? = some v') :
      ∃ v, e.validations[m]? = some v ∧ v'.document = v.document ∧ (v.Settled → v'.Settled) := by
    rcases modify_cases found with ⟨rfl, v, known, rfl⟩ | ⟨_, known⟩
    · exact ⟨v, known, document v, settled v known⟩
    · exact ⟨v', known, rfl, id⟩
  constructor
  · rintro uri m ⟨v', found, address, undone, uncalled⟩
    obtain ⟨v, known, same, keeps⟩ := back found
    rcases v.settled_or with settled | live
    · exact absurd (keeps settled) (Validation.not_settled undone uncalled)
    · exact registered.live uri m ⟨v, known, by rw [← same, address], live⟩
  · intro uri m held
    obtain ⟨v, known, address⟩ := registered.entry uri m held
    refine ⟨if n = m then f v else v, ?_, ?_⟩
    · simp only [List.getElem?_modify, known]
      by_cases here : n = m <;> simp [here]
    · by_cases here : n = m <;> simp [here, document, address]
  · intro uri k held m v' found address
    obtain ⟨v, known, same, _⟩ := back found
    exact registered.latest uri k held m v known (by rw [← same, address])

theorem calledOffAt_settled {e : Engine} (registered : Registered e) (uri : String) {n : Nat} {v : Validation}
    (known : (e.calledOffAt uri)[n]? = some v) (address : v.document.uri = uri) : v.Settled := by
  rw [calledOffAt_get, Option.map_eq_some_iff] at known
  obtain ⟨w, found, rfl⟩ := known
  by_cases held : e.inflight.get? uri = some n
  · simp [held]
  · simp only [held, ↓reduceIte] at address ⊢
    rcases w.settled_or with settled | live
    · exact settled
    · exact absurd (registered.live uri n ⟨w, found, address, live⟩) held

theorem Registered.callOff {e : Engine} (registered : Registered e) (uri : String) :
    Registered { e with validations := e.calledOffAt uri } := by
  unfold calledOffAt
  split
  · exact registered.modify (by simp) (by simp)
  · exact registered

theorem Registered.openDocument {e : Engine} (registered : Registered e) (d : Document) :
    Registered (e.openDocument d).1 := by
  obtain ⟨queue, events, _, opened⟩ := e.openDocument_eq d
  have length := e.calledOffAt_length d.uri
  have before := registered.callOff d.uri
  have split {n : Nat} {v : Validation} (known : (e.openDocument d).1.validations[n]? = some v) :=
    openDocument_cases known
  rw [opened] at split ⊢
  constructor
  · rintro uri n ⟨v, known, address, undone, uncalled⟩
    rcases split known with old | ⟨rfl, rfl⟩
    · by_cases same : uri = d.uri
      · exact absurd (calledOffAt_settled registered d.uri old (address.trans same))
          (Validation.not_settled undone uncalled)
      · exact (Keyed.get?_put_of_ne same _ _).trans (before.live uri n ⟨v, old, address, undone, uncalled⟩)
    · subst address
      exact Keyed.get?_put_self ..
  · intro uri n held
    by_cases same : uri = d.uri
    · subst same
      simp only [Keyed.get?_put_self, Option.some.injEq] at held
      refine ⟨{ document := d }, ?_, rfl⟩
      rw [← held, ← length]
      exact List.getElem?_concat_length
    · rw [Keyed.get?_put_of_ne same] at held
      obtain ⟨v, known, address⟩ := before.entry uri n held
      exact ⟨v, (List.getElem?_append_left (List.getElem?_eq_some_iff.mp known).1).trans known, address⟩
  · intro uri n held m v known address
    by_cases same : uri = d.uri
    · subst same
      simp only [Keyed.get?_put_self, Option.some.injEq] at held
      have := (List.getElem?_eq_some_iff.mp known).1
      simp only [List.length_append, length, List.length_cons, List.length_nil] at this
      omega
    · rw [Keyed.get?_put_of_ne same] at held
      rcases split known with old | ⟨rfl, rfl⟩
      · exact before.latest uri n held m v old address
      · exact absurd address.symm same

theorem Registered.closeDocument {e : Engine} (registered : Registered e) (uri : String) :
    Registered (e.closeDocument uri).1 := by
  obtain ⟨queue, closed⟩ := e.closeDocument_eq uri
  rw [closed]
  refine ((registered.callOff uri).erase uri ?_).of_same rfl rfl
  rintro n ⟨v, known, address, undone, uncalled⟩
  exact Validation.not_settled undone uncalled (calledOffAt_settled registered uri known address)

theorem Registered.turn {e : Engine} (registered : Registered e) (k : Nat) : Registered (e.turn k) := by
  rcases e.turn_cases k with ⟨_, same⟩ | ⟨errand, e', _, same, turned⟩
  · rw [same]; exact registered
  · rw [same]
    have before : Registered { e with queue := e.queue.eraseIdx k } := registered.of_same rfl rfl
    cases turned with
    | idle => exact before
    | forgotten known ended held =>
      refine before.erase _ ?_
      rintro n ⟨v', known', address, undone, _⟩
      have same := before.live _ n ⟨v', known', address, undone, ‹_›⟩
      rw [held, Option.some.injEq] at same
      subst same
      rw [known, Option.some.injEq] at known'
      subst known'
      simp [ended] at undone
    | calledOff known _ =>
      exact (before.modify (n := errand.number) (by simp) (by simp [Validation.Settled, Validation.isDone])).of_same
        rfl rfl
    | worked known progress _ worked =>
      refine (before.modify (n := errand.number) (by simp) ?_).of_same worked.validations worked.inflight
      intro v found settled
      rw [known, Option.some.injEq] at found
      subst found
      exact absurd settled (Validation.not_settled (progress.unfinished false) rfl)

/-! ## Validations that have ended or been called off -/

/-- What may become of a validation: it can be called off, and one that has ended stays as it is. -/
structure Ages (v v' : Validation) : Prop where
  document : v'.document = v.document
  called : v.cancelled = true → v'.cancelled = true
  ended : v.isDone = true → v' = v

theorem Ages.refl (v : Validation) : Ages v v := ⟨rfl, id, fun _ => rfl⟩

theorem Ages.trans {v w x : Validation} (first : Ages v w) (second : Ages w x) : Ages v x where
  document := second.document.trans first.document
  called called := second.called (first.called called)
  ended ended := by
    have same := first.ended ended
    subst same
    exact second.ended ended

theorem Ages.settled {v v' : Validation} (ages : Ages v v') (settled : v.Settled) : v'.Settled := by
  rcases settled with ended | called
  · rw [ages.ended ended]; exact .inl ended
  · exact .inr (ages.called called)

theorem ages_asked (v : Validation) : Ages v v.asked where
  document := v.asked_document
  called := Validation.asked_cancelled
  ended ended := by simp [Validation.asked, ended]

/-- All validations are still there. -/
def Keeps (e e' : Engine) : Prop :=
  ∀ (n : Nat) (v : Validation), e.validations[n]? = some v → ∃ v', e'.validations[n]? = some v' ∧ Ages v v'

theorem Keeps.refl (e : Engine) : Keeps e e := fun _ v known => ⟨v, known, .refl v⟩

theorem Keeps.trans {e e' e'' : Engine} (first : Keeps e e') (second : Keeps e' e'') : Keeps e e'' := by
  intro n v known
  obtain ⟨w, found, young⟩ := first n v known
  obtain ⟨x, last, old⟩ := second n w found
  exact ⟨x, last, young.trans old⟩

theorem keeps_modify {e e' : Engine} {n : Nat} {f : Validation → Validation}
    (validations : e'.validations = e.validations.modify n f)
    (ages : ∀ v, e.validations[n]? = some v → Ages v (f v)) : Keeps e e' := by
  intro m v known
  refine ⟨if n = m then f v else v, ?_, ?_⟩
  · rw [validations, List.getElem?_modify, known]
    by_cases here : n = m <;> simp [here]
  · by_cases here : n = m
    · subst here
      simpa using ages v known
    · simp [here, Ages.refl]

theorem keeps_callOff {e e' : Engine} (uri : String) (validations : e'.validations = e.calledOffAt uri) : Keeps e e' := by
  intro m v known
  rw [validations, calledOffAt_get, known]
  refine ⟨_, rfl, ?_⟩
  split
  · exact ages_asked v
  · exact .refl v

theorem keeps_openDocument (e : Engine) (d : Document) : Keeps e (e.openDocument d).1 := by
  obtain ⟨queue, events, _, opened⟩ := e.openDocument_eq d
  intro m v known
  have called : Keeps e { e with validations := e.calledOffAt d.uri } := keeps_callOff d.uri rfl
  obtain ⟨v', found, ages⟩ := called m v known
  rw [opened]
  exact ⟨v', (List.getElem?_append_left (List.getElem?_eq_some_iff.mp found).1).trans found, ages⟩

theorem keeps_closeDocument (e : Engine) (uri : String) : Keeps e (e.closeDocument uri).1 := by
  obtain ⟨queue, closed⟩ := e.closeDocument_eq uri
  rw [closed]
  exact keeps_callOff uri rfl

theorem keeps_turn (e : Engine) (k : Nat) : Keeps e (e.turn k) := by
  rcases e.turn_cases k with ⟨_, same⟩ | ⟨errand, e', _, same, turned⟩
  · rw [same]; exact .refl e
  · rw [same]
    cases turned with
    | idle => exact Keeps.refl e
    | forgotten _ _ _ => exact Keeps.refl e
    | @calledOff d p _ known unended =>
      refine keeps_modify (n := errand.number) rfl fun v found => ?_
      change e.validations[errand.number]? = some ⟨d, p, true⟩ at known
      rw [known, Option.some.injEq] at found
      subst found
      refine ⟨rfl, id, fun ended => ?_⟩
      cases p with
      | finished o => exact absurd rfl (unended o)
      | _ => cases ended
    | worked known progress _ worked =>
      refine keeps_modify (n := errand.number) worked.validations fun v found => ?_
      rw [known, Option.some.injEq] at found
      subst found
      refine ⟨rfl, id, fun ended => ?_⟩
      rw [progress.unfinished false] at ended
      cases ended

/-! ## Turns of validations that have ended or been called off -/

/-- Nothing that is remembered has changed, and nothing is seen but compilers that are killed. -/
structure Silent (e e' : Engine) : Prop where
  session : e'.session = e.session
  trace : ∃ files : List String, e'.trace = e.trace ++ files.map .kill

theorem Silent.refl (e : Engine) : Silent e e := ⟨rfl, [], by simp⟩

theorem Silent.trans {e e' e'' : Engine} (first : Silent e e') (second : Silent e' e'') : Silent e e'' := by
  obtain ⟨files, seen⟩ := first.trace
  obtain ⟨more, later⟩ := second.trace
  exact ⟨second.session.trans first.session, files ++ more, by simp [later, seen]⟩

/-- Validations may have stopped, and have done nothing else. -/
def Stopped (e e' : Engine) : Prop :=
  ∀ (n : Nat) (v' : Validation), e'.validations[n]? = some v' → ∃ v, e.validations[n]? = some v ∧ Ages v v' ∧
    (v'.phase = v.phase ∨ v'.phase = .finished .cancelled)

theorem Stopped.refl (e : Engine) : Stopped e e := fun _ v known => ⟨v, known, .refl v, .inl rfl⟩

theorem Stopped.trans {e e' e'' : Engine} (first : Stopped e e') (second : Stopped e' e'') : Stopped e e'' := by
  intro n x last
  obtain ⟨w, found, old, stops⟩ := second n x last
  obtain ⟨v, known, young, stopped⟩ := first n w found
  refine ⟨v, known, young.trans old, ?_⟩
  rcases stops with same | stop
  · rw [same]; exact stopped
  · exact .inr stop

/-- The validation of an errand, if there is one, has ended or been called off. -/
def Idle (e : Engine) (errand : Errand) : Prop :=
  ∀ v, e.validations[errand.number]? = some v → v.Settled

theorem turn_idle {e : Engine} {k : Nat} (idle : ∀ errand, e.queue[k]? = some errand → e.Idle errand) :
    Silent e (e.turn k) ∧ Stopped e (e.turn k) := by
  rcases e.turn_cases k with ⟨_, same⟩ | ⟨errand, e', queued, same, turned⟩
  · rw [same]; exact ⟨.refl e, .refl e⟩
  · rw [same]
    cases turned with
    | idle => exact ⟨⟨rfl, [], by simp⟩, Stopped.refl e⟩
    | forgotten _ _ _ => exact ⟨⟨rfl, [], by simp⟩, Stopped.refl e⟩
    | @calledOff d p files known unended =>
      refine ⟨⟨rfl, files, rfl⟩, fun n v' found => ?_⟩
      rcases modify_cases found with ⟨rfl, v, old, rfl⟩ | ⟨_, old⟩
      · have same : v = ⟨d, p, true⟩ := Option.some.inj (old.symm.trans known)
        subst same
        refine ⟨_, old, ⟨rfl, fun _ => rfl, fun ended => ?_⟩, .inr rfl⟩
        cases p with
        | finished o => exact absurd rfl (unended o)
        | _ => cases ended
      · exact ⟨v', old, .refl v', .inl rfl⟩
    | worked known progress _ _ =>
      exact absurd (idle errand queued _ known) (Validation.not_settled (progress.unfinished false) rfl)

/-! ## Shutting down -/

/-- All validations have ended or been called off. -/
def AllSettled (e : Engine) : Prop := ∀ (n : Nat) (v : Validation), e.validations[n]? = some v → v.Settled

theorem AllSettled.of_stopped {e e' : Engine} (all : AllSettled e) (stopped : Stopped e e') : AllSettled e' := by
  intro n v' found
  obtain ⟨v, known, ages, _⟩ := stopped n v' found
  exact ages.settled (all n v known)

theorem foldl_cancel_eq (e : Engine) (ns : List Nat) :
    ∃ validations queue, ns.foldl cancel e = { e with validations, queue } ∧
      ∀ m, validations[m]? = e.validations[m]?.map fun v => if m ∈ ns then v.asked else v := by
  induction ns generalizing e with
  | nil => exact ⟨e.validations, e.queue, rfl, by simp⟩
  | cons n rest ih =>
    obtain ⟨queue, asked⟩ := e.cancel_eq n
    obtain ⟨validations, queue', folded, points⟩ := ih (e.cancel n)
    refine ⟨validations, queue', by rw [List.foldl_cons, folded, asked], fun m => ?_⟩
    rw [points, asked, List.getElem?_modify]
    by_cases here : n = m
    · subst here
      cases e.validations[n]? with
      | none => rfl
      | some v => by_cases again : n ∈ rest <;> simp [again]
    · simp [here, Ne.symm here]

theorem steps_settled (count : Nat) {e : Engine} (all : AllSettled e) :
    Silent e (e.steps count) ∧ Stopped e (e.steps count) := by
  induction count generalizing e with
  | zero => exact ⟨.refl e, .refl e⟩
  | succ count ih =>
    obtain ⟨silent, stopped⟩ := turn_idle (e := e) (k := 0) fun errand _ => all errand.number
    obtain ⟨silently, stops⟩ := ih (all.of_stopped stopped)
    rw [steps, step_eq_turn]
    exact ⟨silent.trans silently, stopped.trans stops⟩

/-- Everything is called off. -/
theorem foldl_cancel_settled {e : Engine} (registered : Registered e) :
    AllSettled ((e.inflight.map Prod.snd).foldl cancel e) := by
  obtain ⟨validations, queue, called, points⟩ := e.foldl_cancel_eq (e.inflight.map Prod.snd)
  rw [called]
  intro n v' found
  change validations[n]? = some v' at found
  rw [points, Option.map_eq_some_iff] at found
  obtain ⟨v, known, rfl⟩ := found
  rcases v.settled_or with settled | live
  · split
    · exact v.asked_settled
    · exact settled
  · have held := registered.live v.document.uri n ⟨v, known, rfl, live⟩
    have member : n ∈ e.inflight.map Prod.snd := List.mem_map.mpr ⟨_, Keyed.mem_of_get? held, rfl⟩
    simp [member]

/-- Shutting down stops every validation that is under way, and nothing is seen of it but compilers
that are killed. -/
theorem shutdown_silent {e : Engine} (registered : Registered e) :
    Silent e e.shutdown ∧ Stopped e e.shutdown ∧ AllSettled e.shutdown := by
  have all := foldl_cancel_settled registered
  obtain ⟨validations, queue, called, points⟩ := e.foldl_cancel_eq (e.inflight.map Prod.snd)
  unfold shutdown settle
  rw [called] at all ⊢
  have stopped : Stopped e { e with validations, queue } := by
    intro n v' found
    change validations[n]? = some v' at found
    rw [points, Option.map_eq_some_iff] at found
    obtain ⟨v, known, rfl⟩ := found
    refine ⟨v, known, ?_⟩
    split
    · exact ⟨ages_asked v, .inl v.asked_phase⟩
    · exact ⟨.refl v, .inl rfl⟩
  obtain ⟨silent, stops⟩ := steps_settled (2 * queue.length) all
  exact ⟨⟨silent.session, silent.trace⟩, stopped.trans stops, all.of_stopped stops⟩

theorem keeps_steps (count : Nat) (e : Engine) : Keeps e (e.steps count) := by
  induction count generalizing e with
  | zero => exact .refl e
  | succ count ih =>
    rw [steps, step_eq_turn]
    exact (keeps_turn e 0).trans (ih _)

theorem keeps_shutdown (e : Engine) : Keeps e e.shutdown := by
  obtain ⟨validations, queue, called, points⟩ := e.foldl_cancel_eq (e.inflight.map Prod.snd)
  have asked : Keeps e ((e.inflight.map Prod.snd).foldl cancel e) := by
    intro n v known
    rw [called]
    refine ⟨_, (points n).trans (by rw [known]; rfl), ?_⟩
    split
    · exact ages_asked v
    · exact .refl v
  exact asked.trans (keeps_steps _ _)

theorem Registered.shutdown {e : Engine} (registered : Registered e) : Registered e.shutdown := by
  obtain ⟨_, _, all⟩ := shutdown_silent registered
  constructor
  · rintro uri n ⟨v, known, _, undone, uncalled⟩
    exact absurd (all n v known) (Validation.not_settled undone uncalled)
  · intro uri n held
    cases held
  · intro uri n held
    cases held

/-! ## Runs -/

/-- Every move keeps the registry, and all validations that there were. -/
theorem registered_invariant (e : Engine) : Invariant fun e' => Registered e' ∧ Keeps e e' where
  remembers _ _ holds := ⟨holds.1.of_same rfl rfl, holds.2⟩
  speaks _ _ _ holds := ⟨holds.1.of_same rfl rfl, holds.2⟩
  moves _ _ _ holds := ⟨holds.1.of_same rfl rfl, holds.2⟩
  opens e' d holds := ⟨holds.1.openDocument d, holds.2.trans (keeps_openDocument e' d)⟩
  queues _ _ holds := ⟨holds.1.of_same rfl rfl, holds.2⟩
  closes e' uri holds := ⟨holds.1.closeDocument uri, holds.2.trans (keeps_closeDocument e' uri)⟩
  turns e' k holds := ⟨holds.1.turn k, holds.2.trans (keeps_turn e' k)⟩
  shuts e' holds := ⟨holds.1.shutdown, holds.2.trans (keeps_shutdown e')⟩

theorem Registered.run {e : Engine} (registered : Registered e) (moves : List Move) : Registered (e.run moves) :=
  ((registered_invariant e).run e moves ⟨registered, .refl e⟩).1

theorem Registered.keeps {e : Engine} (registered : Registered e) (moves : List Move) : Keeps e (e.run moves) :=
  ((registered_invariant e).run e moves ⟨registered, .refl e⟩).2

/-- A new engine has the machine's files as its store leaves them, has done nothing yet, and at most a
warning of the store has been seen. -/
theorem exists_of_create {machine : Machine} {host : Host} {folder : Path} {workspace : Option String} {e : Engine}
    (created : create machine host folder workspace = .ok e) :
    ∃ tree store, ∃ warning : Option String, e =
      { machine := { machine with tree }, host, workspace, store, trace := warning.toList.map (.log .warning .settings) } := by
  unfold create at created
  cases read : Settings.Store.create machine.tree machine.directory folder workspace with
  | error f => rw [read] at created; cases created
  | ok found =>
    rw [read] at created
    cases created
    exact ⟨_, _, _, rfl⟩

theorem noticesIn_warning (warning : Option String) :
    noticesIn (warning.toList.map (.log .warning .settings)) = [] := by
  cases warning <;> rfl

/-- A new engine has no validations, and nothing open. -/
theorem create_eq {machine : Machine} {host : Host} {folder : Path} {workspace : Option String} {e : Engine}
    (created : create machine host folder workspace = .ok e) :
    e.validations = [] ∧ e.inflight = [] ∧ e.queue = [] ∧ e.session = {} ∧ setsIn e.trace = [] := by
  obtain ⟨_, _, warning, rfl⟩ := exists_of_create created
  exact ⟨rfl, rfl, rfl, rfl, setsIn_of_noticesIn (noticesIn_warning warning)⟩

/-- A compiler that finds an error, and whose output is held back. -/
def smallReply : Reply :=
  { output := ⟨[], Encoding.Utf8.encode "a.c:1:1: error: x\n".toList, 1⟩, held := true }

/-- What that compiler finds. -/
def smallSet : List Diagnostic :=
  [{ range := ⟨⟨0, 0⟩, ⟨0, 0⟩⟩, severity := .error, message := "a.c:1:1: error: x\n", source := "gcc", column := 1
     file := "a.c" }]

/-- A machine with an empty folder and one source file, and that compiler. -/
def smallMachine : Machine where
  tree := ⟨[(["home"], .directory), (["a.c"], .file [10])]⟩
  directory := []
  toolchain := { answer := Toolchain.byName [("a.c", smallReply)] }

/-- That machine with a setting for the encoding of the source file. -/
def spoiltMachine (encoding : String) : Machine :=
  let bytes := Encoding.Utf8.encode ("\x7b\"parse.encoding\": \"" ++ encoding ++ "\"\x7d").toList
  { smallMachine with tree := ⟨smallMachine.tree.entries ++ [([".cccdiag.json"], .file bytes)]⟩ }

/-- The source file of the small machine in a version. -/
def smallDocument (version : Int) : Document := ⟨"file:///a.c", "/a.c", "\n", version⟩

theorem registered_create {machine : Machine} {host : Host} {folder : Path} {workspace : Option String} {e : Engine}
    (created : create machine host folder workspace = .ok e) : Registered e := by
  obtain ⟨validations, inflight, _⟩ := create_eq created
  constructor
  · rintro uri n ⟨v, known, _⟩
    rw [validations] at known
    cases known
  · intro uri n held
    rw [inflight] at held
    cases held
  · intro uri n held
    rw [inflight] at held
    cases held

end Diagnosis.Engine
