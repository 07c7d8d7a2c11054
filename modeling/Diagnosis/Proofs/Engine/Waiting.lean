import Diagnosis.Proofs.Engine.Ending

/-!
# What waits in the queue

A turn takes one errand out of the queue, and leads to at most one other; nothing
else ever leaves the queue. So every validation that has not started still has its
start in the queue, and the queue is worked off in the end.
-/

namespace Diagnosis.Engine

/-! ## The queue grows -/

/-- The host is the same, and all that waited in the queue still waits there. -/
structure Grows (e e' : Engine) : Prop where
  host : e'.host = e.host
  queue : e.queue <+: e'.queue

theorem Grows.refl (e : Engine) : Grows e e := ⟨rfl, List.prefix_rfl⟩

theorem Grows.trans {e e' e'' : Engine} (first : Grows e e') (second : Grows e' e'') : Grows e e'' :=
  ⟨second.host.trans first.host, first.queue.trans second.queue⟩

theorem Grows.of_same {e e' : Engine} (host : e'.host = e.host) (queue : e'.queue = e.queue) : Grows e e' :=
  ⟨host, queue ▸ List.prefix_rfl⟩

theorem Grows.of_append {e e' : Engine} {more : List Errand} (host : e'.host = e.host)
    (queue : e'.queue = e.queue ++ more) : Grows e e' :=
  ⟨host, queue ▸ List.prefix_append ..⟩

/-- What grows from an engine with the same host and queue. -/
theorem Grows.of_start {e e₀ e' : Engine} (grows : Grows e₀ e') (host : e₀.host = e.host)
    (queue : e₀.queue = e.queue) : Grows e e' :=
  (Grows.of_same host queue).trans grows

/-! ## What an errand leads to -/

/-- The host is the same, and the queue has at most one more errand: that a validation is forgotten. -/
structure Leads (n : Nat) (e e' : Engine) : Prop where
  host : e'.host = e.host
  queue : e'.queue = e.queue ∨ e'.queue = e.queue ++ [.forget n]

theorem Leads.of_same {n : Nat} {e e' : Engine} (host : e'.host = e.host) (queue : e'.queue = e.queue) : Leads n e e' :=
  ⟨host, .inl queue⟩

/-- What is led to from an engine with the same host and queue. -/
theorem Leads.of_start {n : Nat} {e e₀ e' : Engine} (leads : Leads n e₀ e') (host : e₀.host = e.host)
    (queue : e₀.queue = e.queue) : Leads n e e' :=
  ⟨leads.host.trans host, queue ▸ leads.queue⟩

theorem Leads.grows {n : Nat} {e e' : Engine} (leads : Leads n e e') : Grows e e' := by
  rcases leads.queue with same | more
  · exact .of_same leads.host same
  · exact .of_append leads.host more

theorem publish_queue (e : Engine) (uri : String) (ds : List Diagnostic) (s : Settings) :
    (e.publish uri ds s).1.host = e.host ∧ (e.publish uri ds s).1.queue = e.queue := by
  obtain ⟨events, published, _⟩ := e.publish_tells uri ds s
  rw [published]
  exact ⟨rfl, rfl⟩

theorem finish_leads (e : Engine) (n : Nat) (o : Outcome) : Leads n e (e.finish n o) := ⟨rfl, .inr rfl⟩

theorem fail_leads (e : Engine) (n : Nat) (d : Document) (f : Failure) : Leads n e (e.fail n d f) := by
  obtain ⟨events, reported, _⟩ := e.reportFailure_tells d.path f
  rw [fail, reported]
  exact (finish_leads (e.emit events) n .failed).of_start rfl rfl

theorem clear_leads (e : Engine) (n : Nat) (d : Document) (s : Settings) (f : EngineError) :
    Leads n e (e.clear n d s f) := by
  obtain ⟨host, queue⟩ := (e.report f).publish_queue d.uri [] s
  unfold clear
  split <;> rename_i found <;> rw [found] at host queue
  · exact (finish_leads _ n .failed).of_start host queue
  · exact (finish_leads _ n _).of_start host queue

theorem stopRun_leads (e : Engine) (n : Nat) (d : Document) (s : Settings) (f : Failure) :
    Leads n e (e.stopRun n d s f) := by
  unfold stopRun
  split
  · exact e.clear_leads n d s _
  · exact e.fail_leads n d _

theorem conclude_leads (e : Engine) (n : Nat) (d : Document) (s : Settings) (reply : Reply) :
    Leads n e (e.conclude n d s reply) := by
  unfold conclude
  dsimp only
  split
  · exact (stopRun_leads _ n d s _).of_start rfl rfl
  · split
    · exact (fail_leads _ n d _).of_start rfl rfl
    · rename_i r _
      obtain ⟨host, queue⟩ := publish_queue
        ((e.emit [(Compiler.conclude s.command reply.output).1]).mentionRest d.name r) d.uri r.diagnostics s
      split <;> rename_i found <;> rw [found] at host queue <;> exact (finish_leads ..).of_start host queue

theorem compile_leads (e : Engine) (n : Nat) (d : Document) (s : Settings) : Leads n e (e.compile n d s) := by
  unfold compile
  dsimp only
  split
  · exact (stopRun_leads _ n d s _).of_start rfl rfl
  · split
    · exact .of_same rfl rfl
    · exact (conclude_leads _ n d s _).of_start rfl rfl

theorem start_leads (e : Engine) (n : Nat) : Leads n e (e.start n) := by
  unfold start
  split
  · rename_i d cancelled _
    split
    · exact e.finish_leads n .cancelled
    · dsimp only
      obtain ⟨settings, kept⟩ := (e.log .info ("Validating " ++ d.path ++ " (version " ++ Text.decimalInt d.version ++
        ")")).settingsFor_keeps d.uri d.path
      split <;> rename_i found <;> rw [found] at kept <;> dsimp only at kept <;> subst kept
      · exact (fail_leads _ n d _).of_start rfl rfl
      · exact (compile_leads _ n d _).of_start rfl rfl
  · exact .of_same rfl rfl

theorem resume_leads (e : Engine) (n : Nat) : Leads n e (e.resume n) := by
  unfold resume
  split
  · split
    · exact (finish_leads _ n .cancelled).of_start rfl rfl
    · exact e.conclude_leads n _ _ _
  · exact .of_same rfl rfl

theorem forget_queue (e : Engine) (n : Nat) : (e.forget n).host = e.host ∧ (e.forget n).queue = e.queue := by
  unfold forget
  split
  · split <;> exact ⟨rfl, rfl⟩
  · exact ⟨rfl, rfl⟩

theorem perform_leads (e : Engine) (errand : Errand) : Leads errand.number e (e.perform errand) := by
  cases errand with
  | start n => exact e.start_leads n
  | resume n => exact e.resume_leads n
  | forget n =>
    obtain ⟨host, queue⟩ := e.forget_queue n
    exact .of_same host queue

/-! ## The queue is worked off -/

/-- The most turns that an errand takes, with what it leads to. -/
def turnsFor : Errand → Nat
  | .forget _ => 1
  | .start _ | .resume _ => 2

/-- The most turns that a queue takes. -/
def turnsLeft : List Errand → Nat
  | [] => 0
  | errand :: rest => turnsFor errand + turnsLeft rest

theorem turnsLeft_concat (queue : List Errand) (errand : Errand) :
    turnsLeft (queue ++ [errand]) = turnsLeft queue + turnsFor errand := by
  induction queue with
  | nil => exact Nat.add_comm ..
  | cons first rest ih => rw [List.cons_append, turnsLeft, turnsLeft, ih, Nat.add_assoc]

theorem turnsLeft_le (queue : List Errand) : turnsLeft queue ≤ 2 * queue.length := by
  induction queue with
  | nil => exact Nat.le_refl 0
  | cons errand rest ih =>
    rw [turnsLeft, List.length_cons]
    cases errand <;> simp only [turnsFor] <;> omega

/-- Performing an errand leads to less than the errand. -/
theorem perform_turnsLeft (e : Engine) (errand : Errand) :
    turnsLeft (e.perform errand).queue + 1 ≤ turnsLeft e.queue + turnsFor errand := by
  cases errand with
  | forget n =>
    rw [perform, (e.forget_queue n).2]
    exact Nat.le_refl _
  | start n =>
    rcases (e.start_leads n).queue with same | more
    · rw [perform, same]
      exact Nat.add_le_add_left (Nat.le_succ 1) _
    · rw [perform, more, turnsLeft_concat]
      exact Nat.le_refl _
  | resume n =>
    rcases (e.resume_leads n).queue with same | more
    · rw [perform, same]
      exact Nat.add_le_add_left (Nat.le_succ 1) _
    · rw [perform, more, turnsLeft_concat]
      exact Nat.le_refl _

theorem steps_empty {count : Nat} {e : Engine} (enough : turnsLeft e.queue ≤ count) : (e.steps count).queue = [] := by
  induction count generalizing e with
  | zero =>
    cases waits : e.queue with
    | nil => exact waits
    | cons errand rest =>
      rw [waits, turnsLeft] at enough
      cases errand <;> simp [turnsFor] at enough
  | succ count ih =>
    apply ih
    unfold step
    cases waits : e.queue with
    | nil =>
      rw [waits]
      exact Nat.zero_le count
    | cons errand rest =>
      have less := perform_turnsLeft { e with queue := rest } errand
      rw [waits, turnsLeft] at enough
      dsimp only at less ⊢
      omega

/-- When an engine has settled, nothing is left to do. -/
theorem settle_empty (e : Engine) : e.settle.queue = [] := steps_empty (turnsLeft_le e.queue)

/-! ## Nothing else leaves the queue -/

/-- A turn takes nothing out of the queue but its own errand. -/
theorem turn_grows (e : Engine) (k : Nat) : Grows { e with queue := e.queue.eraseIdx k } (e.turn k) := by
  unfold turn
  cases queued : e.queue[k]? with
  | none => exact .of_same rfl (List.eraseIdx_of_length_le (List.getElem?_eq_none_iff.mp queued)).symm
  | some errand => exact (perform_leads _ errand).grows

theorem cancel_grows (e : Engine) (n : Nat) : Grows e (e.cancel n) := by
  unfold cancel
  split
  · exact .of_same rfl rfl
  · split
    · exact .of_same rfl rfl
    · exact .of_append rfl rfl
  · exact .refl e

theorem supersede_grows (e : Engine) (uri : String) : Grows e (e.supersede uri) := by
  unfold supersede
  split
  · split
    · exact .refl e
    · exact (cancel_grows _ _).of_start rfl rfl
  · exact .refl e

/-- A document that is opened has its validation start. -/
theorem openDocument_grows (e : Engine) (d : Document) :
    Grows e (e.openDocument d).1 ∧ .start e.validations.length ∈ (e.openDocument d).1.queue := by
  have before := (e.withSession (e.session.hold d)).supersede_grows d.uri
  have length : ((e.withSession (e.session.hold d)).supersede d.uri).validations.length = e.validations.length := by
    obtain ⟨queue, events, _, superseded⟩ := (e.withSession (e.session.hold d)).supersede_eq d.uri
    rw [superseded]
    exact calledOffAt_length ..
  have queue : (e.openDocument d).1.queue =
      ((e.withSession (e.session.hold d)).supersede d.uri).queue ++ [.start e.validations.length] := by
    rw [← length]
    rfl
  have schedules : Grows ((e.withSession (e.session.hold d)).supersede d.uri) (e.openDocument d).1 := .of_append rfl queue
  exact ⟨(before.trans schedules).of_start rfl rfl, by simp [queue]⟩

theorem closeDocument_grows (e : Engine) (uri : String) : Grows e (e.closeDocument uri).1 := by
  unfold closeDocument
  split
  · rename_i n _
    have calls := (cancel_grows { e with inflight := e.inflight.erase uri } n).of_start (e := e) rfl rfl
    exact calls.trans (.of_same rfl rfl)
  · exact .of_same rfl rfl

/-! ## No validation is lost -/

/-- Every validation that has not started has its start in the queue. -/
def Announced (e : Engine) : Prop :=
  ∀ (n : Nat) (v : Validation), e.validations[n]? = some v → v.phase = .created → .start n ∈ e.queue

theorem Announced.of_grows {e e' : Engine} (announced : Announced e) (grows : Grows e e')
    (older : ∀ (n : Nat) (v' : Validation), e'.validations[n]? = some v' → v'.phase = .created →
      ∃ v, e.validations[n]? = some v ∧ v.phase = .created) : Announced e' := by
  intro n v' found created
  obtain ⟨v, known, before⟩ := older n v' found created
  exact grows.queue.mem (announced n v known before)

theorem Announced.of_same {e e' : Engine} (announced : Announced e) (validations : e'.validations = e.validations)
    (grows : Grows e e') : Announced e' :=
  announced.of_grows grows fun _ v' found created => ⟨v', validations ▸ found, created⟩

theorem Announced.cancel {e : Engine} (announced : Announced e) (m : Nat) : Announced (e.cancel m) := by
  refine announced.of_grows (e.cancel_grows m) fun n v' found created => ?_
  obtain ⟨queue, asked⟩ := e.cancel_eq m
  rw [asked] at found
  rcases modify_cases found with ⟨rfl, v, known, rfl⟩ | ⟨_, known⟩
  · exact ⟨v, known, v.asked_phase ▸ created⟩
  · exact ⟨v', known, created⟩

theorem Announced.openDocument {e : Engine} (announced : Announced e) (d : Document) :
    Announced (e.openDocument d).1 := by
  obtain ⟨grows, starts⟩ := e.openDocument_grows d
  intro n v' found created
  rcases openDocument_cases found with old | ⟨rfl, _⟩
  · obtain ⟨v, known, _, phase, _⟩ := calledOffAt_cases old
    exact grows.queue.mem (announced n v known (phase ▸ created))
  · exact starts

theorem announced_stable : Stable Announced where
  remembers _ _ announced := announced
  speaks _ _ _ announced := announced
  moves _ _ _ announced := announced
  opens _ d announced := announced.openDocument d

/-- A validation that has had its start has started. -/
theorem start_begins {e : Engine} {n : Nat} {v : Validation} (found : (e.start n).validations[n]? = some v) :
    v.phase ≠ .created := by
  have changed {p : Phase} (unlike : p ≠ .created) {e' : Engine} (same : e'.validations = (e.setPhase n p).validations)
      (now : e'.validations[n]? = some v) : v.phase ≠ .created := by
    rw [same] at now
    rcases modify_cases now with ⟨_, _, _, rfl⟩ | ⟨other, _⟩
    · exact unlike
    · exact absurd rfl other
  cases known : e.validations[n]? with
  | none =>
    rw [start, known] at found
    rw [known] at found
    cases found
  | some w =>
    obtain ⟨d, p, cancelled⟩ := w
    cases p with
    | created =>
      cases cancelled with
      | true =>
        have stopped : e.start n = e.finish n .cancelled := by rw [start, known]; rfl
        exact changed (p := .finished .cancelled) (by simp) (by rw [stopped]; rfl) found
      | false =>
        obtain ⟨settings, kept⟩ := e.settingsFor_keeps d.uri d.path
        have works := start_worked known
        rw [kept] at works
        rcases works with ⟨_, _, worked⟩ | ⟨_, _, ⟨_, worked⟩ | ⟨_, _, worked⟩⟩
        · exact changed (by simp) worked.validations found
        · exact changed (by simp) worked.validations found
        · exact changed (by simp) worked.validations found
    | compiling s reply =>
      rw [start, known] at found
      rw [known] at found
      cases found
      simp
    | finished o =>
      rw [start, known] at found
      rw [known] at found
      cases found
      simp

theorem turn_created {e : Engine} {k n : Nat} {v' : Validation} (found : (e.turn k).validations[n]? = some v')
    (created : v'.phase = .created) : ∃ v, e.validations[n]? = some v ∧ v.phase = .created := by
  rcases e.turn_cases k with ⟨_, same⟩ | ⟨errand, e', _, same, turned⟩
  · rw [same] at found
    exact ⟨v', found, created⟩
  · rw [same] at found
    cases turned with
    | idle => exact ⟨v', found, created⟩
    | forgotten _ _ _ => exact ⟨v', found, created⟩
    | calledOff _ _ =>
      rcases modify_cases found with ⟨_, _, _, rfl⟩ | ⟨_, known⟩
      · cases created
      · exact ⟨v', known, created⟩
    | worked _ progress _ worked =>
      rw [worked.validations] at found
      rcases modify_cases found with ⟨_, _, _, rfl⟩ | ⟨_, known⟩
      · cases progress <;> cases created
      · exact ⟨v', known, created⟩

theorem Announced.turn {e : Engine} (announced : Announced e) (k : Nat) : Announced (e.turn k) := by
  intro n v' found created
  obtain ⟨v, known, before⟩ := turn_created found created
  refine (e.turn_grows k).queue.mem (List.mem_eraseIdx_iff_getElem?.mpr ?_)
  obtain ⟨i, queued⟩ := List.getElem?_of_mem (announced n v known before)
  refine ⟨i, ?_, queued⟩
  rintro rfl
  -- after its own start it would have started
  rw [Engine.turn, queued] at found
  exact start_begins (e := { e with queue := e.queue.eraseIdx i }) found created

theorem Announced.shutdown {e : Engine} (announced : Announced e) : Announced e.shutdown := by
  have asked (ns : List Nat) {e : Engine} (announced : Announced e) : Announced (ns.foldl Engine.cancel e) := by
    induction ns generalizing e with
    | nil => exact announced
    | cons n rest ih => exact ih (announced.cancel n)
  have works (count : Nat) {e : Engine} (announced : Announced e) : Announced (e.steps count) := by
    induction count generalizing e with
    | zero => exact announced
    | succ count ih =>
      rw [steps, step_eq_turn]
      exact ih (announced.turn 0)
  exact (works _ (asked (e.inflight.map Prod.snd) announced)).of_same rfl (.of_same rfl rfl)

theorem Announced.after {e : Engine} (announced : Announced e) (m : Move) : Announced (e.after m) := by
  cases m with
  | opened d => exact announced.openDocument d
  | closed uri =>
    refine announced.of_grows (e.closeDocument_grows uri) fun n v' found created => ?_
    obtain ⟨queue, closed⟩ := e.closeDocument_eq uri
    simp only [Engine.after, closed] at found
    obtain ⟨v, known, _, phase, _⟩ := calledOffAt_cases found
    exact ⟨v, known, phase ▸ created⟩
  | configured => exact announced_stable.configurationChanged e announced
  | shut => exact announced.shutdown
  | loaded path version => exact announced_stable.load e path version announced
  | consulted d =>
    obtain ⟨settings, same⟩ := e.settingsFor_keeps d.uri d.path
    simp only [Engine.after, same]
    exact announced
  | released n => exact announced.of_same rfl (.of_append rfl rfl)
  | turned k => exact announced.turn k
  | moved machine => exact announced

/-- In no run a validation is lost. -/
theorem Announced.run {e : Engine} (announced : Announced e) (moves : List Move) : Announced (e.run moves) := by
  induction moves generalizing e with
  | nil => exact announced
  | cons m rest ih => exact ih (announced.after m)

theorem announced_create {machine : Machine} {host : Host} {folder : Path} {workspace : Option String} {e : Engine}
    (created : create machine host folder workspace = .ok e) : Announced e := by
  obtain ⟨validations, _⟩ := create_eq created
  intro n v known
  rw [validations] at known
  cases known

/-! ## The host stays -/

theorem steps_host (count : Nat) (e : Engine) : (e.steps count).host = e.host := by
  induction count generalizing e with
  | zero => rfl
  | succ count ih => rw [steps, step_eq_turn, ih, (e.turn_grows 0).host]

/-- No move changes the host. -/
theorem host_invariant (host : Host) : Invariant fun e => e.host = host where
  remembers _ _ holds := holds
  speaks _ _ _ holds := holds
  moves _ _ _ holds := holds
  opens e d holds := (e.openDocument_grows d).1.host.trans holds
  queues _ _ holds := holds
  closes e uri holds := (e.closeDocument_grows uri).host.trans holds
  turns e k holds := (e.turn_grows k).host.trans holds
  shuts e holds := by
    obtain ⟨validations, queue, called, _⟩ := e.foldl_cancel_eq (e.inflight.map Prod.snd)
    rw [shutdown, called]
    exact (steps_host _ _).trans holds

theorem create_host {machine : Machine} {host : Host} {folder : Path} {workspace : Option String} {e : Engine}
    (created : create machine host folder workspace = .ok e) : e.host = host := by
  obtain ⟨_, _, _, rfl⟩ := exists_of_create created
  rfl

end Diagnosis.Engine
