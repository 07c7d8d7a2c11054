import Diagnosis.Proofs.Engine.Deeds
import Diagnosis.Proofs.Engine.Frame
import Diagnosis.Proofs.Engine.Mirror
import Diagnosis.Proofs.Engine.Waiting

/-!
# Compilers and their validations

Of all that is done to compilers an account is kept, by validations. A validation starts
at most one compiler, and as long as that runs it waits for it; if it is called off, it
still has a turn in which it kills the compiler.
-/

namespace Diagnosis.Engine

/-! ## The account -/

/-- The turns that so many steps take, each with the engine that it is taken in. -/
def turnsOfSteps : Nat → Engine → List (Engine × Nat)
  | 0, _ => []
  | count + 1, e => (e, 0) :: turnsOfSteps count e.step

/-- The turns that a move takes. -/
def turnsIn (e : Engine) : Move → List (Engine × Nat)
  | .turned k => [(e, k)]
  | .shut =>
    let called := (e.inflight.map Prod.snd).foldl cancel e
    turnsOfSteps (2 * called.queue.length) called
  | _ => []

/-- The turns that a run takes. -/
def history (e : Engine) : List Move → List (Engine × Nat)
  | [] => []
  | m :: rest => e.turnsIn m ++ history (e.after m) rest

/-- What is done to compilers between two engines, with the compilers that there are in the first. -/
def deedsUntil (e e' : Engine) : List Deed := e.machine.toolchain.deedsIn (e'.trace.drop e.trace.length)

/-- What is done in a turn, with the validation whose turn it is. -/
def deedsAt : Engine × Nat → List (Nat × Deed)
  | (e, k) =>
    match e.queue[k]? with
    | none => []
    | some errand => (deedsUntil e (e.turn k)).map (errand.number, ·)

/-- All that is done to compilers in a run, each with the validation whose turn it is. -/
def account (e : Engine) (moves : List Move) : List (Nat × Deed) := (e.history moves).flatMap deedsAt

/-- What a validation has done to its compiler. -/
def deedsBy (n : Nat) (ledger : List (Nat × Deed)) : List Deed :=
  ledger.filterMap fun entry => if entry.1 = n then some entry.2 else none

/-- The compiler that a validation has started runs: it has not exited, its return code has not been
taken, and it has not been killed. -/
def Runs (ledger : List (Nat × Deed)) (n : Nat) (i : Invocation) : Prop :=
  (∃ reply, (n, .born i reply) ∈ ledger ∧ reply.exited = false) ∧ (n, .exited) ∉ ledger ∧
    ∀ file, (n, .killed file) ∉ ledger

@[simp] theorem deedsBy_append (n : Nat) (first second : List (Nat × Deed)) :
    deedsBy n (first ++ second) = deedsBy n first ++ deedsBy n second := by
  simp [deedsBy]

theorem deedsBy_self (n : Nat) (deeds : List Deed) : deedsBy n (deeds.map (n, ·)) = deeds := by
  have own : (fun entry : Nat × Deed => if entry.1 = n then some entry.2 else none) ∘ (n, ·) = some :=
    funext fun _ => if_pos rfl
  rw [deedsBy, List.filterMap_map, own, List.filterMap_some]

theorem deedsBy_of_ne {n m : Nat} (other : m ≠ n) (deeds : List Deed) : deedsBy n (deeds.map (m, ·)) = [] := by
  rw [deedsBy, List.filterMap_map, List.filterMap_eq_nil_iff]
  exact fun _ _ => if_neg other

theorem mem_deedsBy {n : Nat} {deed : Deed} {ledger : List (Nat × Deed)} :
    deed ∈ deedsBy n ledger ↔ (n, deed) ∈ ledger := by
  rw [deedsBy, List.mem_filterMap]
  constructor
  · rintro ⟨⟨m, other⟩, member, same⟩
    split at same
    · rename_i here
      cases same
      exact here ▸ member
    · cases same
  · intro member
    exact ⟨(n, deed), member, if_pos rfl⟩

/-! ## Where a validation stands -/

/-- What a validation has done to its compiler, by where it stands. -/
inductive Stage : Option Validation → List Deed → Prop where
  | unborn : Stage none []
  | created {d : Document} {called : Bool} : Stage (some ⟨d, .created, called⟩) []
  | waiting {d : Document} {s : Settings} {i : Invocation} {reply : Reply} {called : Bool} (file : i.file = d.name) :
      Stage (some ⟨d, .compiling s reply, called⟩) [.born i reply]
  /-- It has ended without a compiler. -/
  | unstarted {d : Document} {o : Outcome} {called : Bool} : Stage (some ⟨d, .finished o, called⟩) []
  /-- It has ended with the answer of its compiler. -/
  | answered {d : Document} {o : Outcome} {i : Invocation} {reply : Reply} {called : Bool} (file : i.file = d.name) :
      Stage (some ⟨d, .finished o, called⟩) [.born i reply, .exited]
  /-- It has been called off when its compiler had exited. -/
  | left {d : Document} {o : Outcome} {i : Invocation} {reply : Reply} {called : Bool} (file : i.file = d.name)
      (exited : reply.exited = true) : Stage (some ⟨d, .finished o, called⟩) [.born i reply]
  /-- It has been called off when its compiler had not exited. -/
  | killed {d : Document} {o : Outcome} {i : Invocation} {reply : Reply} {called : Bool} (file : i.file = d.name)
      (running : reply.exited = false) : Stage (some ⟨d, .finished o, called⟩) [.born i reply, .killed i.file]

theorem Stage.asked {v : Validation} {deeds : List Deed} (stage : Stage (some v) deeds) :
    Stage (some v.asked) deeds := by
  cases stage with
  | created => exact .created
  | waiting file => exact .waiting file
  | unstarted => exact .unstarted
  | answered file => exact .answered file
  | left file exited => exact .left file exited
  | killed file running => exact .killed file running

/-- Every validation stands where what it has done to its compiler has taken it. -/
def Balanced (ledger : List (Nat × Deed)) (e : Engine) : Prop := ∀ n, Stage e.validations[n]? (deedsBy n ledger)

section

variable {ledger : List (Nat × Deed)} {e e' : Engine}

theorem Balanced.of_same (balanced : Balanced ledger e) (validations : e'.validations = e.validations) :
    Balanced ledger e' := by
  rw [Balanced, validations]
  exact balanced

/-- Validations may be called off. -/
theorem Balanced.of_asked (balanced : Balanced ledger e) (chosen : Nat → Prop) [DecidablePred chosen]
    (asks : ∀ n : Nat, e'.validations[n]? = e.validations[n]?.map fun v => if chosen n then v.asked else v) :
    Balanced ledger e' := by
  intro n
  have before := balanced n
  rw [asks n]
  cases known : e.validations[n]? with
  | none =>
    rw [known] at before
    exact before
  | some v =>
    rw [known] at before
    rw [Option.map_some]
    split
    · exact before.asked
    · exact before

theorem Balanced.callOff (balanced : Balanced ledger e) (uri : String)
    (validations : e'.validations = e.calledOffAt uri) : Balanced ledger e' := by
  refine balanced.of_asked (fun n => e.inflight.get? uri = some n) fun n => ?_
  rw [validations, calledOffAt_get]

theorem Balanced.openDocument (balanced : Balanced ledger e) (d : Document) : Balanced ledger (e.openDocument d).1 := by
  obtain ⟨queue, events, _, opened⟩ := e.openDocument_eq d
  have called : Balanced ledger { e with validations := e.calledOffAt d.uri } := balanced.callOff d.uri rfl
  rw [opened]
  intro n
  have before := called n
  dsimp only at before ⊢
  rcases Nat.lt_trichotomy n (e.calledOffAt d.uri).length with older | rfl | beyond
  · rw [List.getElem?_append_left older]
    exact before
  · rw [List.getElem?_eq_none (Nat.le_refl _)] at before
    rw [List.getElem?_concat_length]
    generalize deedsBy _ ledger = deeds at before ⊢
    cases before
    exact .created
  · rw [List.getElem?_eq_none (by omega)] at before
    rw [List.getElem?_eq_none (by rw [List.length_append, List.length_singleton]; omega)]
    exact before

theorem balanced_stable (ledger : List (Nat × Deed)) : Stable (Balanced ledger) where
  remembers _ _ balanced := balanced.of_same rfl
  speaks _ _ _ balanced := balanced.of_same rfl
  moves _ _ _ balanced := balanced.of_same rfl
  opens _ d balanced := balanced.openDocument d

/-! ## Turns -/

/-- A turn is that of no errand, or does what can be done in the turn of its errand. -/
theorem turn_did (e : Engine) (k : Nat) :
    (e.queue[k]? = none ∧ e.turn k = e ∧ deedsAt (e, k) = []) ∨
    ∃ errand deeds, e.queue[k]? = some errand ∧ deedsAt (e, k) = deeds.map (errand.number, ·) ∧
      (∃ events, (e.turn k).trace = e.trace ++ events) ∧
      Did e.validations (e.turn k).validations errand.number deeds := by
  cases queued : e.queue[k]? with
  | none =>
    refine .inl ⟨rfl, by rw [turn, queued], ?_⟩
    simp only [deedsAt, queued]
  | some errand =>
    obtain ⟨events, seen, did⟩ := perform_did { e with queue := e.queue.eraseIdx k } errand
    have turned : e.turn k = { e with queue := e.queue.eraseIdx k }.perform errand := by rw [turn, queued]
    have seen : (e.turn k).trace = e.trace ++ events := turned ▸ seen
    refine .inr ⟨errand, e.machine.toolchain.deedsIn events, rfl, ?_, ⟨events, seen⟩, turned ▸ did⟩
    simp only [deedsAt, queued, deedsUntil]
    rw [seen, List.drop_left]

/-- The turn of a validation takes it where its deeds take it. -/
theorem Did.stage {vs vs' : List Validation} {n : Nat} {earlier deeds : List Deed} (did : Did vs vs' n deeds)
    (before : Stage vs[n]? earlier) : Stage vs'[n]? (earlier ++ deeds) := by
  cases did with
  | idle same => rwa [same, List.append_nil]
  | unstarted known comes =>
    rw [known] at before
    rw [comes, List.getElem?_modify_eq, known]
    cases before
    exact .unstarted
  | begun known file comes =>
    rw [known] at before
    rw [comes, List.getElem?_modify_eq, known]
    cases before
    exact .waiting file
  | whole known file comes =>
    rw [known] at before
    rw [comes, List.getElem?_modify_eq, known]
    cases before
    exact .answered file
  | answered known comes =>
    rw [known] at before
    rw [comes, List.getElem?_modify_eq, known]
    cases before with
    | waiting file => exact .answered file
  | @stopped d s reply known comes =>
    rw [known] at before
    rw [comes, List.getElem?_modify_eq, known]
    cases before with
    | waiting file =>
      cases exited : reply.exited with
      | true => exact .left file exited
      | false =>
        rw [← file]
        exact .killed file exited

/-- All other validations stand where they stood. -/
theorem Did.elsewhere {vs vs' : List Validation} {n m : Nat} {deeds : List Deed} (did : Did vs vs' n deeds)
    (other : n ≠ m) : vs'[m]? = vs[m]? := by
  cases did with
  | idle same => rw [same]
  | unstarted _ comes => rw [comes, List.getElem?_modify_ne _ _ other]
  | begun _ _ comes => rw [comes, List.getElem?_modify_ne _ _ other]
  | whole _ _ comes => rw [comes, List.getElem?_modify_ne _ _ other]
  | answered _ comes => rw [comes, List.getElem?_modify_ne _ _ other]
  | stopped _ comes => rw [comes, List.getElem?_modify_ne _ _ other]

theorem Balanced.turn (balanced : Balanced ledger e) (k : Nat) : Balanced (ledger ++ deedsAt (e, k)) (e.turn k) := by
  rcases e.turn_did k with ⟨_, same, nothing⟩ | ⟨errand, deeds, _, done, _, did⟩
  · rw [same, nothing, List.append_nil]
    exact balanced
  · intro m
    rw [done, deedsBy_append]
    by_cases here : errand.number = m
    · subst here
      rw [deedsBy_self]
      exact did.stage (balanced _)
    · rw [deedsBy_of_ne here, List.append_nil, did.elsewhere here]
      exact balanced m

theorem Balanced.steps (balanced : Balanced ledger e) (count : Nat) :
    Balanced (ledger ++ (turnsOfSteps count e).flatMap deedsAt) (e.steps count) := by
  induction count generalizing e ledger with
  | zero => simpa [turnsOfSteps, Engine.steps] using balanced
  | succ count ih =>
    have first := balanced.turn 0
    rw [← step_eq_turn] at first
    rw [turnsOfSteps, List.flatMap_cons, ← List.append_assoc, Engine.steps]
    exact ih first

theorem Balanced.after (balanced : Balanced ledger e) (m : Move) :
    Balanced (ledger ++ (e.turnsIn m).flatMap deedsAt) (e.after m) := by
  have still {m : Move} (none_taken : e.turnsIn m = []) (kept : Balanced ledger (e.after m)) :
      Balanced (ledger ++ (e.turnsIn m).flatMap deedsAt) (e.after m) := by
    rwa [none_taken, List.flatMap_nil, List.append_nil]
  cases m with
  | opened d => exact still rfl (balanced.openDocument d)
  | closed uri =>
    obtain ⟨queue, closed⟩ := e.closeDocument_eq uri
    refine still rfl (balanced.callOff uri ?_)
    rw [Engine.after, closed]
  | configured => exact still rfl ((balanced_stable ledger).configurationChanged e balanced)
  | shut =>
    obtain ⟨validations, queue, called, points⟩ := e.foldl_cancel_eq (e.inflight.map Prod.snd)
    have asked : Balanced ledger ((e.inflight.map Prod.snd).foldl cancel e) :=
      balanced.of_asked (· ∈ e.inflight.map Prod.snd) (by rw [called]; exact points)
    exact (asked.steps _).of_same rfl
  | loaded path version => exact still rfl ((balanced_stable ledger).load e path version balanced)
  | consulted d =>
    obtain ⟨settings, same⟩ := e.settingsFor_keeps d.uri d.path
    refine still rfl (balanced.of_same ?_)
    rw [Engine.after, same]
    rfl
  | released n => exact still rfl (balanced.of_same rfl)
  | turned k =>
    rw [turnsIn, List.flatMap_singleton]
    exact balanced.turn k
  | moved machine => exact still rfl (balanced.of_same rfl)

/-- In every run, validations stand where what they have done to their compilers has taken them. -/
theorem Balanced.run (balanced : Balanced ledger e) (moves : List Move) :
    Balanced (ledger ++ e.account moves) (e.run moves) := by
  induction moves generalizing e ledger with
  | nil => simpa [account, history] using balanced
  | cons m rest ih =>
    rw [account, history, List.flatMap_append, ← List.append_assoc, run_cons]
    exact ih (balanced.after m)

end

/-! ## Validations that have been called off have a turn -/

/-- Every validation that waits for its compiler and has been called off is to go on. -/
def Summoned (e : Engine) : Prop :=
  ∀ n d s reply, e.validations[n]? = some ⟨d, .compiling s reply, true⟩ → .resume n ∈ e.queue

section

variable {e e' : Engine}

theorem Summoned.of_same (summoned : Summoned e) (validations : e'.validations = e.validations)
    (grows : Grows e e') : Summoned e' := by
  intro n d s reply known
  rw [validations] at known
  exact grows.queue.mem (summoned n d s reply known)

theorem Summoned.cancel (summoned : Summoned e) (m : Nat) : Summoned (e.cancel m) := by
  intro n d s reply found
  obtain ⟨queue, asked⟩ := e.cancel_eq m
  have grows := e.cancel_grows m
  rw [asked] at found
  rcases modify_cases found with ⟨rfl, v, known, same⟩ | ⟨_, known⟩
  · -- it is the one that is called off
    obtain ⟨d', p, called⟩ := v
    have phase : p = .compiling s reply := by
      have phases := congrArg Validation.phase same
      rw [Validation.asked_phase] at phases
      exact phases.symm
    subst phase
    unfold Engine.cancel
    rw [known]
    dsimp only
    split
    · rename_i waits
      exact List.contains_iff_mem.mp waits
    · exact List.mem_append_right _ (List.mem_singleton.mpr rfl)
  · exact grows.queue.mem (summoned n d s reply known)

theorem Summoned.supersede (summoned : Summoned e) (uri : String) : Summoned (e.supersede uri) := by
  unfold Engine.supersede
  split
  · split
    · exact summoned
    · exact Summoned.cancel (e := e.log .debug _) (summoned.of_same rfl (.of_same rfl rfl)) _
  · exact summoned

theorem Summoned.openDocument (summoned : Summoned e) (d : Document) : Summoned (e.openDocument d).1 := by
  have before : Summoned (e.withSession (e.session.hold d)) := summoned.of_same rfl (.of_same rfl rfl)
  intro n d' s reply found
  rcases concat_cases found with old | ⟨_, fresh⟩
  · exact List.mem_append_left _ (before.supersede d.uri n d' s reply old)
  · cases fresh

theorem Summoned.closeDocument (summoned : Summoned e) (uri : String) : Summoned (e.closeDocument uri).1 := by
  unfold Engine.closeDocument
  split
  · exact Summoned.cancel (e := { e with inflight := e.inflight.erase uri }) (summoned.of_same rfl (.of_same rfl rfl)) _
  · exact summoned

/-- A turn takes no other errand out of the queue. -/
theorem mem_queue_turn {k : Nat} {errand other : Errand} (queued : e.queue[k]? = some errand) (member : other ∈ e.queue)
    (unlike : other ≠ errand) : other ∈ (e.turn k).queue := by
  refine (e.turn_grows k).queue.mem (List.mem_eraseIdx_iff_getElem?.mpr ?_)
  obtain ⟨i, there⟩ := List.getElem?_of_mem member
  refine ⟨i, ?_, there⟩
  rintro rfl
  rw [queued, Option.some.injEq] at there
  exact unlike there.symm

theorem resume_called {n : Nat} {d : Document} {s : Settings} {reply : Reply}
    (known : e.validations[n]? = some ⟨d, .compiling s reply, true⟩) :
    (e.resume n).validations[n]? = some ⟨d, .finished .cancelled, true⟩ := by
  rw [resume, known]
  simp [finish, setPhase, emit, known]

theorem Summoned.turn (summoned : Summoned e) (k : Nat) : Summoned (e.turn k) := by
  intro n d s reply found
  rcases e.turn_did k with ⟨_, same, _⟩ | ⟨errand, deeds, queued, _, _, did⟩
  · rw [same] at found ⊢
    exact summoned n d s reply found
  · by_cases here : errand.number = n
    · subst here
      have ended {p : Phase} (comes : (e.turn k).validations = e.validations.modify errand.number fun v => { v with phase := p }) :
          p = .compiling s reply := by
        rw [comes] at found
        rcases modify_cases found with ⟨_, v, _, same⟩ | ⟨other, _⟩
        · exact (congrArg Validation.phase same).symm
        · exact absurd rfl other
      cases did with
      | idle same =>
        rw [same] at found
        refine mem_queue_turn queued (summoned _ d s reply found) ?_
        -- its own turn would have ended it
        rintro resumes
        have turned : e.turn k = { e with queue := e.queue.eraseIdx k }.resume errand.number := by
          rw [Engine.turn, queued, ← resumes]
          rfl
        have stopped := resume_called (e := { e with queue := e.queue.eraseIdx k }) found
        rw [← turned, same, found] at stopped
        cases stopped
      | unstarted _ comes => cases ended comes
      | begun known _ comes =>
        rw [comes, List.getElem?_modify_eq, known] at found
        cases found
      | whole _ _ comes => cases ended comes
      | answered _ comes => cases ended comes
      | stopped _ comes => cases ended comes
    · rw [did.elsewhere here] at found
      refine mem_queue_turn queued (summoned n d s reply found) ?_
      rintro rfl
      exact here rfl

theorem Summoned.steps (summoned : Summoned e) (count : Nat) : Summoned (e.steps count) := by
  induction count generalizing e with
  | zero => exact summoned
  | succ count ih =>
    rw [Engine.steps, step_eq_turn]
    exact ih (summoned.turn 0)

theorem Summoned.shutdown (summoned : Summoned e) : Summoned e.shutdown := by
  have asked (ns : List Nat) {e : Engine} (summoned : Summoned e) : Summoned (ns.foldl Engine.cancel e) := by
    induction ns generalizing e with
    | nil => exact summoned
    | cons n rest ih => exact ih (summoned.cancel n)
  exact ((asked (e.inflight.map Prod.snd) summoned).steps _).of_same rfl (.of_same rfl rfl)

theorem summoned_stable : Stable Summoned where
  remembers _ _ summoned := summoned
  speaks _ _ _ summoned := summoned
  moves _ _ _ summoned := summoned
  opens _ d summoned := summoned.openDocument d

theorem Summoned.after (summoned : Summoned e) (m : Move) : Summoned (e.after m) := by
  cases m with
  | opened d => exact summoned.openDocument d
  | closed uri => exact summoned.closeDocument uri
  | configured => exact summoned_stable.configurationChanged e summoned
  | shut => exact summoned.shutdown
  | loaded path version => exact summoned_stable.load e path version summoned
  | consulted d =>
    obtain ⟨settings, same⟩ := e.settingsFor_keeps d.uri d.path
    rw [Engine.after, same]
    exact summoned
  | released n => exact summoned.of_same rfl (.of_append rfl rfl)
  | turned k => exact summoned.turn k
  | moved machine => exact summoned

theorem Summoned.run (summoned : Summoned e) (moves : List Move) : Summoned (e.run moves) := by
  induction moves generalizing e with
  | nil => exact summoned
  | cons m rest ih => exact ih (summoned.after m)

end

/-! ## Nothing is left out of the account -/

theorem deedsUntil_eq {e e' : Engine} {events : List Event} (grown : e'.trace = e.trace ++ events) :
    deedsUntil e e' = e.machine.toolchain.deedsIn events := by
  rw [deedsUntil, grown, List.drop_left]

theorem deedsUntil_spares {e e' : Engine} (spares : Spares e e') : deedsUntil e e' = [] := by
  obtain ⟨events, grown, sparing⟩ := spares
  rw [deedsUntil_eq grown, sparing]

theorem turn_accounted (e : Engine) (k : Nat) :
    ∃ events, (e.turn k).trace = e.trace ++ events ∧
      e.machine.toolchain.deedsIn events = (deedsAt (e, k)).map Prod.snd := by
  rcases e.turn_did k with ⟨_, same, nothing⟩ | ⟨errand, deeds, queued, _, ⟨events, grown⟩, _⟩
  · exact ⟨[], by rw [same, List.append_nil], by rw [nothing]; rfl⟩
  · refine ⟨events, grown, ?_⟩
    simp only [deedsAt, queued, deedsUntil_eq grown, List.map_map, Function.comp_def, List.map_id']

theorem steps_accounted (count : Nat) (e : Engine) :
    ∃ events, (e.steps count).trace = e.trace ++ events ∧
      e.machine.toolchain.deedsIn events = ((turnsOfSteps count e).flatMap deedsAt).map Prod.snd := by
  induction count generalizing e with
  | zero => exact ⟨[], (List.append_nil _).symm, rfl⟩
  | succ count ih =>
    obtain ⟨first, grown, done⟩ := e.turn_accounted 0
    obtain ⟨rest, later, doneToo⟩ := ih e.step
    have machine : e.step.machine = e.machine := by rw [step_eq_turn]; exact (e.turn_framed 0).machine
    rw [← step_eq_turn] at grown
    refine ⟨first ++ rest, ?_, ?_⟩
    · rw [steps, later, grown, List.append_assoc]
    · rw [machine] at doneToo
      rw [Toolchain.deedsIn_append, done, doneToo, turnsOfSteps, List.flatMap_cons, List.map_append]

/-- What is done to compilers in a move is done in the turns that it takes. -/
theorem after_accounted (e : Engine) (m : Move) :
    deedsUntil e (e.after m) = ((e.turnsIn m).flatMap deedsAt).map Prod.snd := by
  cases m with
  | opened d => exact deedsUntil_spares (e.openDocument_spares d)
  | closed uri => exact deedsUntil_spares (e.closeDocument_spares uri)
  | configured => exact deedsUntil_spares e.configurationChanged_spares
  | shut =>
    obtain ⟨validations, queue, called, _⟩ := e.foldl_cancel_eq (e.inflight.map Prod.snd)
    obtain ⟨events, grown, done⟩ := steps_accounted
      (2 * ((e.inflight.map Prod.snd).foldl cancel e).queue.length) ((e.inflight.map Prod.snd).foldl cancel e)
    have tools : ((e.inflight.map Prod.snd).foldl cancel e).machine = e.machine := by rw [called]
    have seen : ((e.inflight.map Prod.snd).foldl cancel e).trace = e.trace := by rw [called]
    rw [seen] at grown
    rw [tools] at done
    have whole : e.shutdown.trace = e.trace ++ events := grown
    exact (deedsUntil_eq whole).trans done
  | loaded path version => exact deedsUntil_spares (e.load_spares path version)
  | consulted d => exact deedsUntil_spares (e.settingsFor_spares d.uri d.path)
  | released n => exact deedsUntil_spares (.of_same rfl)
  | turned k =>
    obtain ⟨events, grown, done⟩ := e.turn_accounted k
    rw [turnsIn, List.flatMap_singleton, ← done]
    exact deedsUntil_eq grown
  | moved machine => exact deedsUntil_spares (.of_same rfl)

/-! ## No compiler outlives its validation -/

/-- What a validation may have done to compilers: it starts at most one, and if it kills that, the
compiler had not exited and its return code had not been taken. -/
inductive Life : List Deed → Prop where
  | unborn : Life []
  | born (i : Invocation) (reply : Reply) : Life [.born i reply]
  | answered (i : Invocation) (reply : Reply) : Life [.born i reply, .exited]
  | killed (i : Invocation) (reply : Reply) (running : reply.exited = false) : Life [.born i reply, .killed i.file]

theorem Stage.life {v? : Option Validation} {deeds : List Deed} (stage : Stage v? deeds) : Life deeds := by
  cases stage with
  | unborn => exact .unborn
  | created => exact .unborn
  | waiting _ => exact .born ..
  | unstarted => exact .unborn
  | answered _ => exact .answered ..
  | left _ _ => exact .born ..
  | killed _ running => exact .killed _ _ running

/-- Nothing is left to do but to forget validations that have ended. -/
def Rested (e : Engine) : Prop := ∀ errand ∈ e.queue, ∃ n, errand = .forget n

/-- The validation of a compiler that runs waits for it. -/
theorem Balanced.waits {ledger : List (Nat × Deed)} {e : Engine} (balanced : Balanced ledger e) {n : Nat} {i : Invocation}
    (runs : Runs ledger n i) :
    ∃ d s reply called, e.validations[n]? = some ⟨d, .compiling s reply, called⟩ ∧ i.file = d.name ∧
      deedsBy n ledger = [.born i reply] := by
  obtain ⟨⟨reply, born, running⟩, untaken, unkilled⟩ := runs
  have stage := balanced n
  rw [← mem_deedsBy] at born untaken
  have spared : ∀ file, .killed file ∉ deedsBy n ledger := fun file member => unkilled file (mem_deedsBy.mp member)
  generalize deedsBy n ledger = deeds at stage born untaken spared
  generalize standing : e.validations[n]? = v? at stage
  cases stage with
  | unborn => cases born
  | created => cases born
  | @waiting d s i' reply' called file =>
    cases List.mem_singleton.mp born
    exact ⟨d, s, reply, called, rfl, file, rfl⟩
  | unstarted => cases born
  | answered _ => exact absurd (List.mem_cons_of_mem _ List.mem_cons_self) untaken
  | left _ exited =>
    cases List.mem_singleton.mp born
    rw [running] at exited
    cases exited
  | killed _ _ => exact absurd (List.mem_cons_of_mem _ List.mem_cons_self) (spared _)

/-- Where all that is left to do is to forget, it has not been called off. -/
theorem waits_uncalled {ledger : List (Nat × Deed)} {e : Engine} (balanced : Balanced ledger e) (summoned : Summoned e)
    (rested : Rested e) {n : Nat} {i : Invocation} (runs : Runs ledger n i) :
    ∃ d s reply, e.validations[n]? = some ⟨d, .compiling s reply, false⟩ ∧ i.file = d.name ∧
      deedsBy n ledger = [.born i reply] := by
  obtain ⟨d, s, reply, called, known, file, whole⟩ := balanced.waits runs
  cases called with
  | false => exact ⟨d, s, reply, known, file, whole⟩
  | true =>
    obtain ⟨m, wrong⟩ := rested _ (summoned n d s reply known)
    cases wrong

/-- How the compilers of a run fare. -/
structure Tended (e : Engine) (moves : List Move) : Prop where
  /-- All that is done to compilers in any of the moves is in the account of the turns. -/
  accounted : ∀ before m later, moves = before ++ m :: later →
    deedsUntil (e.run before) ((e.run before).after m) = (((e.run before).turnsIn m).flatMap deedsAt).map Prod.snd
  lives : ∀ n, Life (deedsBy n (e.account moves))
  /-- A compiler is killed only in a turn of its own validation, which has been called off while it
  waited, and only if the compiler has not exited. -/
  kills : ∀ turn ∈ e.history moves, ∀ n file, (n, .killed file) ∈ deedsAt turn → ∃ d s reply,
    turn.1.validations[n]? = some ⟨d, .compiling s reply, true⟩ ∧ reply.exited = false ∧ file = d.name
  /-- When everything has had its turn, a compiler that runs is waited for by its validation, which
  has not been called off, and the document of that is open. -/
  owned : Rested (e.run moves) → ∀ n i, Runs (e.account moves) n i → ∃ d s reply,
    (e.run moves).validations[n]? = some ⟨d, .compiling s reply, false⟩ ∧ i.file = d.name ∧ (e.run moves).IsOpen d.uri
  /-- There is at most one for an address. -/
  alone : Rested (e.run moves) → ∀ n n' i i' v v', Runs (e.account moves) n i → Runs (e.account moves) n' i' →
    (e.run moves).validations[n]? = some v → (e.run moves).validations[n']? = some v' →
    v.document.uri = v'.document.uri → n = n' ∧ i = i'
  /-- None is left after a shutdown. -/
  gone : ∀ n i, ¬ Runs (e.account (moves ++ [.shut])) n i

theorem balanced_create {machine : Machine} {host : Host} {folder : Path} {workspace : Option String} {e : Engine}
    (created : create machine host folder workspace = .ok e) : Balanced [] e := by
  obtain ⟨validations, _⟩ := create_eq created
  intro n
  rw [validations]
  exact .unborn

theorem summoned_create {machine : Machine} {host : Host} {folder : Path} {workspace : Option String} {e : Engine}
    (created : create machine host folder workspace = .ok e) : Summoned e := by
  obtain ⟨validations, _⟩ := create_eq created
  intro n d s reply known
  rw [validations] at known
  cases known

theorem killed_called (e : Engine) (k : Nat) {n : Nat} {file : String} (killed : (n, .killed file) ∈ deedsAt (e, k)) :
    ∃ d s reply, e.validations[n]? = some ⟨d, .compiling s reply, true⟩ ∧ reply.exited = false ∧ file = d.name := by
  rcases e.turn_did k with ⟨_, _, nothing⟩ | ⟨errand, deeds, _, done, _, did⟩
  · rw [nothing] at killed
    cases killed
  · rw [done] at killed
    obtain ⟨deed, member, same⟩ := List.mem_map.mp killed
    cases same
    cases did with
    | idle _ => cases member
    | unstarted _ _ => cases member
    | begun _ _ _ => cases List.mem_singleton.mp member
    | whole _ _ _ => simp at member
    | answered _ _ => cases List.mem_singleton.mp member
    | @stopped d s reply known _ =>
      cases exited : reply.exited with
      | true =>
        rw [exited] at member
        cases member
      | false =>
        rw [exited] at member
        cases List.mem_singleton.mp member
        exact ⟨d, s, reply, known, exited, rfl⟩

/-- In every run no compiler outlives its validation. -/
theorem compilers_tended {machine : Machine} {host : Host} {folder : Path} {workspace : Option String} {e : Engine}
    (created : create machine host folder workspace = .ok e) (moves : List Move) : Tended e moves := by
  have balanced (moves : List Move) : Balanced (e.account moves) (e.run moves) := (balanced_create created).run moves
  have summoned (moves : List Move) : Summoned (e.run moves) := (summoned_create created).run moves
  obtain ⟨registered, displayed⟩ :=
    displayed_invariant.run e moves ⟨registered_create created, displayed_create created⟩
  constructor
  · rintro before m later _
    exact after_accounted ..
  · exact fun n => (balanced moves n).life
  · rintro ⟨x, k⟩ _ n file killed
    exact killed_called x k killed
  · intro rested n i runs
    obtain ⟨d, s, reply, known, file, _⟩ := waits_uncalled (balanced moves) (summoned moves) rested runs
    exact ⟨d, s, reply, known, file, displayed.held _ _ (registered.live _ _ ⟨_, known, rfl, rfl, rfl⟩)⟩
  · intro rested n n' i i' v v' runs runs' found found' same
    obtain ⟨d, s, reply, known, _, whole⟩ := waits_uncalled (balanced moves) (summoned moves) rested runs
    obtain ⟨d', s', reply', known', _, whole'⟩ := waits_uncalled (balanced moves) (summoned moves) rested runs'
    rw [known, Option.some.injEq] at found
    rw [known', Option.some.injEq] at found'
    subst found found'
    have held := registered.live _ _ ⟨_, known, rfl, rfl, rfl⟩
    have held' := registered.live _ _ ⟨_, known', rfl, rfl, rfl⟩
    dsimp only at same held held'
    rw [same, held', Option.some.injEq] at held
    subst held
    rw [whole] at whole'
    cases whole'
    exact ⟨rfl, rfl⟩
  · intro n i runs
    have shuts : e.run (moves ++ [.shut]) = (e.run moves).shutdown := e.run_concat moves .shut
    have rested : Rested (e.run (moves ++ [.shut])) := by
      intro errand member
      rw [shuts, show (e.run moves).shutdown.queue = [] from settle_empty _] at member
      cases member
    obtain ⟨_, _, all⟩ := shutdown_silent registered
    obtain ⟨d, s, reply, known, _⟩ := waits_uncalled (balanced _) (summoned _) rested runs
    rw [shuts] at known
    rcases all n _ known with ended | called
    · cases ended
    · cases called

/-- The call of the compiler for the source file of the small machine. -/
def smallCall : Invocation := ⟨"gcc", ["-fsyntax-only", "-Wall", "-fdiagnostics-parseable-fixits", "a.c"], "/"⟩

/-- The document of the small machine is saved while its compiler runs, and everything has its turn. -/
def savedMidway : List Move :=
  [.opened (smallDocument 0), .turned 0, .opened (smallDocument 1), .turned 0, .turned 0]

/-- The first compiler is killed, and the second one runs. -/
theorem compilers_tended_midway :
    ∃ e, create smallMachine .display ⟨"/", ["home"]⟩ none = .ok e ∧ Tended e savedMidway ∧
      e.account savedMidway = [(0, .born smallCall smallReply), (0, .killed "a.c"), (1, .born smallCall smallReply)] ∧
      (e.run savedMidway).queue = [.forget 0] := by
  have checked : (create smallMachine .display ⟨"/", ["home"]⟩ none).toOption.any (fun e =>
      e.account savedMidway = [(0, .born smallCall smallReply), (0, .killed "a.c"), (1, .born smallCall smallReply)] ∧
      (e.run savedMidway).queue = [.forget 0]) = true := by
    decide +kernel
  obtain ⟨e, created, holds⟩ := exists_ok_of_any checked
  obtain ⟨account, left⟩ := of_decide_eq_true holds
  exact ⟨e, created, compilers_tended created savedMidway, account, left⟩

end Diagnosis.Engine
