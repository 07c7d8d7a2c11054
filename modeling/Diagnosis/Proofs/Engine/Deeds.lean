import Diagnosis.Proofs.Engine.Move

/-!
# What turns do to compilers

Compilers are started, their return codes are taken, and they are killed in the turns of
validations alone. A turn does this to the compiler of its own validation, as the
validation goes from one phase to another.
-/

namespace Diagnosis

/-- Something that is done to a compiler. -/
inductive Deed where
  /-- It is started, and answers. -/
  | born (i : Invocation) (reply : Reply)
  /-- Its return code is taken. -/
  | exited
  | killed (file : String)
  deriving DecidableEq, Repr

/-- What an event does to a compiler of a toolchain. A call that does not come to a start makes no
compiler. -/
def Toolchain.deedOf (t : Toolchain) : Event → Option Deed
  | .spawn i => if (t.answer i).fault = none then some (.born i (t.answer i)) else none
  | .record ⟨.debug, .compiler, _⟩ => some .exited
  | .kill file => some (.killed file)
  | _ => none

/-- What events do to compilers of a toolchain. -/
def Toolchain.deedsIn (t : Toolchain) (events : List Event) : List Deed := events.filterMap t.deedOf

@[simp] theorem Toolchain.deedsIn_append (t : Toolchain) (first second : List Event) :
    t.deedsIn (first ++ second) = t.deedsIn first ++ t.deedsIn second := by
  simp [deedsIn]

namespace Engine

/-! ## Nothing is done -/

/-- Nothing that is seen is done to a compiler. -/
def Sparing (events : List Event) : Prop := ∀ t : Toolchain, t.deedsIn events = []

theorem Sparing.append {first second : List Event} (sparing : Sparing first) (sparingToo : Sparing second) :
    Sparing (first ++ second) := by
  intro t
  rw [Toolchain.deedsIn_append, sparing t, sparingToo t]
  rfl

/-- Something may have been seen, but nothing that is done to a compiler. -/
def Spares (e e' : Engine) : Prop := ∃ events, e'.trace = e.trace ++ events ∧ Sparing events

theorem Spares.refl (e : Engine) : Spares e e := ⟨[], by simp, fun _ => rfl⟩

theorem Spares.of_same {e e' : Engine} (trace : e'.trace = e.trace) : Spares e e' :=
  ⟨[], by simp [trace], fun _ => rfl⟩

theorem Spares.trans {e e' e'' : Engine} (first : Spares e e') (second : Spares e' e'') : Spares e e'' := by
  obtain ⟨events, seen, sparing⟩ := first
  obtain ⟨more, later, sparingToo⟩ := second
  exact ⟨events ++ more, by rw [later, seen, List.append_assoc], sparing.append sparingToo⟩

theorem log_spares (e : Engine) (level : LogLevel) (message : String) : Spares e (e.log level message) := by
  refine ⟨_, rfl, fun t => ?_⟩
  cases level <;> rfl

theorem report_spares (e : Engine) (f : EngineError) : Spares e (e.report f) :=
  ⟨_, List.append_assoc .., fun _ => rfl⟩

theorem reportInternal_spares (e : Engine) (path message : String) : Spares e (e.reportInternal path message) :=
  ⟨_, List.append_assoc .., fun _ => rfl⟩

theorem reportFailure_spares (e : Engine) (path : String) (f : Failure) : Spares e (e.reportFailure path f) := by
  cases f with
  | engine f => exact e.report_spares f
  | _ => exact e.reportInternal_spares ..

theorem publish_spares (e : Engine) (uri : String) (ds : List Diagnostic) (s : Settings) :
    Spares e (e.publish uri ds s).1 := by
  unfold publish
  dsimp only
  split
  · exact ⟨_, List.append_assoc .., fun _ => rfl⟩
  · exact ⟨_, rfl, fun _ => rfl⟩

theorem mentionRest_spares (e : Engine) (name : String) (r : Report) : Spares e (e.mentionRest name r) := by
  refine ⟨_, rfl, fun t => ?_⟩
  have skips : t.deedsIn (r.others.map (skipped name)) = [] := by
    rw [Toolchain.deedsIn, List.filterMap_map, List.filterMap_eq_nil_iff]
    exact fun _ _ => rfl
  have mentions : t.deedsIn (r.issues.flatMap (mention name)) = [] := by
    rw [Toolchain.deedsIn, List.filterMap_eq_nil_iff]
    intro event member
    obtain ⟨issue, _, among⟩ := List.mem_flatMap.mp member
    simp only [mention, List.mem_cons, List.not_mem_nil, or_false] at among
    rcases among with rfl | rfl <;> rfl
  rw [Toolchain.deedsIn_append, Toolchain.deedsIn_append, skips, mentions]
  split <;> rfl

/-! ## What a turn does -/

/-- What a validation's turn does to its compiler when it comes to a phase. -/
structure Does (t : Toolchain) (e e' : Engine) (n : Nat) (p : Phase) (deeds : List Deed) : Prop where
  validations : e'.validations = (e.setPhase n p).validations
  seen : ∃ events, e'.trace = e.trace ++ events ∧ t.deedsIn events = deeds

section

variable {t : Toolchain} {e e₀ e' : Engine} {n : Nat} {p : Phase} {deeds : List Deed}

theorem Does.of_emit {events : List Event} (does : Does t (e.emit events) e' n p deeds) :
    Does t e e' n p (t.deedsIn events ++ deeds) := by
  obtain ⟨later, grown, done⟩ := does.seen
  refine ⟨does.validations, events ++ later, ?_, ?_⟩
  · simpa [emit] using grown
  · rw [Toolchain.deedsIn_append, done]

/-- What is done after something that spares compilers. -/
theorem Does.of_spares (does : Does t e₀ e' n p deeds) (spares : Spares e e₀) (same : e₀.validations = e.validations) :
    Does t e e' n p deeds := by
  obtain ⟨events, seen, sparing⟩ := spares
  obtain ⟨later, grown, done⟩ := does.seen
  refine ⟨?_, events ++ later, ?_, ?_⟩
  · rw [does.validations, setPhase, setPhase, same]
  · rw [grown, seen, List.append_assoc]
  · rw [Toolchain.deedsIn_append, sparing t, done, List.nil_append]

end

theorem finish_does (t : Toolchain) (e : Engine) (n : Nat) (o : Outcome) : Does t e (e.finish n o) n (.finished o) [] :=
  ⟨rfl, [], by simp [finish, setPhase], rfl⟩

theorem fail_does (t : Toolchain) (e : Engine) (n : Nat) (d : Document) (f : Failure) :
    Does t e (e.fail n d f) n (.finished .failed) [] := by
  have same : (e.reportFailure d.path f).validations = e.validations := by
    obtain ⟨events, reported, _⟩ := e.reportFailure_tells d.path f
    rw [reported]
    rfl
  exact (finish_does t _ n .failed).of_spares (e.reportFailure_spares d.path f) same

theorem publish_validations (e : Engine) (uri : String) (ds : List Diagnostic) (s : Settings) :
    (e.publish uri ds s).1.validations = e.validations := by
  obtain ⟨events, published, _⟩ := e.publish_tells uri ds s
  rw [published]
  rfl

theorem clear_does (t : Toolchain) (e : Engine) (n : Nat) (d : Document) (s : Settings) (f : EngineError) :
    ∃ o, Does t e (e.clear n d s f) n (.finished o) [] := by
  have spares := (e.report_spares f).trans ((e.report f).publish_spares d.uri [] s)
  have same : ((e.report f).publish d.uri [] s).1.validations = e.validations := publish_validations ..
  unfold clear
  split <;> rename_i found <;> rw [found] at spares same
  · exact ⟨_, (finish_does t _ n .failed).of_spares (spares.trans (reportInternal_spares ..)) same⟩
  · exact ⟨_, (finish_does t _ n _).of_spares spares same⟩

theorem stopRun_does (t : Toolchain) (e : Engine) (n : Nat) (d : Document) (s : Settings) (f : Failure) :
    ∃ o, Does t e (e.stopRun n d s f) n (.finished o) [] := by
  unfold stopRun
  split
  · exact e.clear_does t n d s _
  · exact ⟨_, e.fail_does t n d _⟩

/-- A validation that ends with an answer takes the return code of its compiler. -/
theorem conclude_does (t : Toolchain) (e : Engine) (n : Nat) (d : Document) (s : Settings) (reply : Reply) :
    ∃ o, Does t e (e.conclude n d s reply) n (.finished o) [.exited] := by
  have taken : t.deedsIn [(Compiler.conclude s.command reply.output).1] = [.exited] := rfl
  have whole {o : Outcome} {e' : Engine}
      (rest : Does t (e.emit [(Compiler.conclude s.command reply.output).1]) e' n (.finished o) []) :
      ∃ o, Does t e e' n (.finished o) [.exited] := by
    have both := rest.of_emit
    rw [taken] at both
    exact ⟨o, both⟩
  unfold conclude
  dsimp only
  split
  · obtain ⟨o, stops⟩ := stopRun_does t (e.emit [(Compiler.conclude s.command reply.output).1]) n d s _
    exact whole stops
  · split
    · exact whole (fail_does t _ n d _)
    · rename_i r _
      have spares := (mentionRest_spares (e.emit [(Compiler.conclude s.command reply.output).1]) d.name r).trans
        (publish_spares _ d.uri r.diagnostics s)
      have same := publish_validations
        ((e.emit [(Compiler.conclude s.command reply.output).1]).mentionRest d.name r) d.uri r.diagnostics s
      split <;> rename_i found <;> rw [found] at spares same <;> exact whole ((finish_does t _ n _).of_spares spares same)

/-- The last argument of a call is the name of its source file. -/
theorem file_of_call {s : Settings} {source : String} {workspace : Option String} {i : Invocation}
    (called : Invocation.of s source workspace = .ok i) : i.file = fileName source := by
  unfold Invocation.of arguments at called
  cases flagged : includeFlags s workspace with
  | error fault =>
    rw [flagged] at called
    cases called
  | ok flags =>
    rw [flagged] at called
    cases called
    simp [Invocation.file]

/-- Beginning a run makes a compiler if it comes to a start, and does nothing otherwise. -/
theorem begin_does (t : Toolchain) (s : Settings) (source : String) (workspace : Option String) :
    (∃ f, (Compiler.begin t s source workspace).2 = .error f ∧ t.deedsIn (Compiler.begin t s source workspace).1 = []) ∨
    ∃ i reply, (Compiler.begin t s source workspace).2 = .ok reply ∧ i.file = fileName source ∧
      t.deedsIn (Compiler.begin t s source workspace).1 = [.born i reply] := by
  unfold Compiler.begin
  cases called : Invocation.of s source workspace with
  | error fault => exact .inl ⟨_, rfl, rfl⟩
  | ok i =>
    dsimp only
    unfold Compiler.spawn
    split
    · exact .inl ⟨_, rfl, rfl⟩
    · dsimp only
      cases fault : (t.answer i).fault with
      | some f =>
        have unmade : t.deedOf (.spawn i) = none := if_neg (by simp [fault])
        exact .inl ⟨_, rfl, by rw [Toolchain.deedsIn, List.filterMap_cons_none rfl, List.filterMap_cons_none unmade]; rfl⟩
      | none =>
        have made : t.deedOf (.spawn i) = some (.born i (t.answer i)) := if_pos fault
        refine .inr ⟨i, _, rfl, file_of_call called, ?_⟩
        rw [Toolchain.deedsIn, List.filterMap_cons_none rfl, List.filterMap_cons_some made]
        rfl

/-- A validation that begins its compiler ends without one, or with its answer, or waits for that. -/
theorem compile_does (e : Engine) (n : Nat) (d : Document) (s : Settings) :
    (∃ o, Does e.machine.toolchain e (e.compile n d s) n (.finished o) []) ∨
    ∃ i reply, i.file = d.name ∧
      ((∃ o, Does e.machine.toolchain e (e.compile n d s) n (.finished o) [.born i reply, .exited]) ∨
        Does e.machine.toolchain e (e.compile n d s) n (.compiling s reply) [.born i reply]) := by
  unfold compile
  dsimp only
  rcases begin_does e.machine.toolchain s d.path e.workspace with ⟨f, begun, none_made⟩ | ⟨i, reply, begun, file, made⟩
  · rw [begun]
    obtain ⟨o, stops⟩ := stopRun_does e.machine.toolchain
      (e.emit (Compiler.begin e.machine.toolchain s d.path e.workspace).1) n d s f
    have whole := stops.of_emit
    rw [none_made] at whole
    exact .inl ⟨o, whole⟩
  · rw [begun]
    refine .inr ⟨i, reply, file, ?_⟩
    dsimp only
    split
    · have waits : Does e.machine.toolchain (e.emit (Compiler.begin e.machine.toolchain s d.path e.workspace).1)
          ((e.emit (Compiler.begin e.machine.toolchain s d.path e.workspace).1).setPhase n (.compiling s reply)) n
          (.compiling s reply) [] := ⟨rfl, [], by simp [setPhase], rfl⟩
      have whole := waits.of_emit
      rw [made] at whole
      exact .inr whole
    · obtain ⟨o, ends⟩ := conclude_does e.machine.toolchain
        (e.emit (Compiler.begin e.machine.toolchain s d.path e.workspace).1) n d s reply
      have whole := ends.of_emit
      rw [made] at whole
      exact .inl ⟨o, whole⟩

/-- What the turn of an errand does: the phase that its validation comes to, and what is done to the
compiler. -/
inductive Did (vs vs' : List Validation) (n : Nat) : List Deed → Prop where
  | idle (same : vs' = vs) : Did vs vs' n []
  /-- The validation ends without a compiler. -/
  | unstarted {d : Document} {called : Bool} {o : Outcome} (known : vs[n]? = some ⟨d, .created, called⟩)
      (comes : vs' = vs.modify n fun v => { v with phase := .finished o }) : Did vs vs' n []
  /-- It waits for its compiler. -/
  | begun {d : Document} {s : Settings} {i : Invocation} {reply : Reply} (known : vs[n]? = some ⟨d, .created, false⟩)
      (file : i.file = d.name) (comes : vs' = vs.modify n fun v => { v with phase := .compiling s reply }) :
      Did vs vs' n [.born i reply]
  /-- It has not had to wait for its compiler. -/
  | whole {d : Document} {o : Outcome} {i : Invocation} {reply : Reply} (known : vs[n]? = some ⟨d, .created, false⟩)
      (file : i.file = d.name) (comes : vs' = vs.modify n fun v => { v with phase := .finished o }) :
      Did vs vs' n [.born i reply, .exited]
  /-- It has waited, and the answer has come. -/
  | answered {d : Document} {s : Settings} {o : Outcome} {reply : Reply}
      (known : vs[n]? = some ⟨d, .compiling s reply, false⟩)
      (comes : vs' = vs.modify n fun v => { v with phase := .finished o }) : Did vs vs' n [.exited]
  /-- It has waited, and has been called off. -/
  | stopped {d : Document} {s : Settings} {reply : Reply} (known : vs[n]? = some ⟨d, .compiling s reply, true⟩)
      (comes : vs' = vs.modify n fun v => { v with phase := .finished .cancelled }) :
      Did vs vs' n (if reply.exited then [] else [.killed d.name])

/-- What is seen of an errand's turn. -/
def DidSeen (e e' : Engine) (n : Nat) : Prop :=
  ∃ events, e'.trace = e.trace ++ events ∧ Did e.validations e'.validations n (e.machine.toolchain.deedsIn events)

theorem didSeen_idle {e e' : Engine} {n : Nat} (trace : e'.trace = e.trace) (same : e'.validations = e.validations) :
    DidSeen e e' n :=
  ⟨[], by simp [trace], .idle same⟩

theorem Does.didSeen {e e₀ e' : Engine} {n : Nat} {p : Phase} {deeds : List Deed}
    (does : Does e.machine.toolchain e₀ e' n p deeds) (spares : Spares e e₀) (same : e₀.validations = e.validations)
    (did : e'.validations = (e.setPhase n p).validations → Did e.validations e'.validations n deeds) : DidSeen e e' n := by
  have whole := does.of_spares spares same
  obtain ⟨events, seen, done⟩ := whole.seen
  exact ⟨events, seen, done ▸ did whole.validations⟩

/-- Finding settings, with a line in the log before it, does nothing to compilers. -/
theorem settingsFor_logged (e : Engine) (uri path message : String) :
    ∃ x r, (e.log .info message).settingsFor uri path = (x, r) ∧ Spares e x ∧ x.validations = e.validations ∧
      x.machine = e.machine := by
  obtain ⟨settings, kept⟩ := (e.log .info message).settingsFor_keeps uri path
  exact ⟨_, _, Prod.ext kept rfl, log_spares e .info message, rfl, rfl⟩

theorem start_did (e : Engine) (n : Nat) : DidSeen e (e.start n) n := by
  cases known : e.validations[n]? with
  | none => rw [start, known]; exact didSeen_idle rfl rfl
  | some v =>
    obtain ⟨d, p, cancelled⟩ := v
    cases p with
    | compiling s reply => rw [start, known]; exact didSeen_idle rfl rfl
    | finished o => rw [start, known]; exact didSeen_idle rfl rfl
    | created =>
      cases cancelled with
      | true =>
        have stopped : e.start n = e.finish n .cancelled := by rw [start, known]; rfl
        rw [stopped]
        exact (finish_does _ e n .cancelled).didSeen (.refl e) rfl (.unstarted known)
      | false =>
        obtain ⟨x, r, found, spares, same, machine⟩ := e.settingsFor_logged d.uri d.path
          ("Validating " ++ d.path ++ " (version " ++ Text.decimalInt d.version ++ ")")
        simp only [start, known, Bool.false_eq_true, ↓reduceIte]
        rw [found]
        cases r with
        | error f => exact (fail_does _ x n d f).didSeen spares same (.unstarted known)
        | ok s =>
          have compiles := x.compile_does n d s
          rw [machine] at compiles
          rcases compiles with ⟨o, does⟩ | ⟨i, reply, file, ⟨o, does⟩ | does⟩
          · exact does.didSeen spares same (.unstarted known)
          · exact does.didSeen spares same (.whole known file)
          · exact does.didSeen spares same (.begun known file)

theorem resume_did (e : Engine) (n : Nat) : DidSeen e (e.resume n) n := by
  cases known : e.validations[n]? with
  | none => rw [resume, known]; exact didSeen_idle rfl rfl
  | some v =>
    obtain ⟨d, p, cancelled⟩ := v
    cases p with
    | created => rw [resume, known]; exact didSeen_idle rfl rfl
    | finished o => rw [resume, known]; exact didSeen_idle rfl rfl
    | compiling s reply =>
      cases cancelled with
      | true =>
        have stopped : e.resume n = (e.emit (if reply.exited then [] else [.kill d.name])).finish n .cancelled := by
          rw [resume, known]; rfl
        rw [stopped]
        refine ⟨_, rfl, ?_⟩
        have done : e.machine.toolchain.deedsIn (if reply.exited then [] else [.kill d.name]) =
            if reply.exited then [] else [.killed d.name] := by
          cases reply.exited <;> rfl
        rw [done]
        exact .stopped known rfl
      | false =>
        have goesOn : e.resume n = e.conclude n d s reply := by rw [resume, known]; rfl
        obtain ⟨o, does⟩ := conclude_does e.machine.toolchain e n d s reply
        rw [goesOn]
        exact does.didSeen (.refl e) rfl (.answered known)

theorem forget_did (e : Engine) (n : Nat) : DidSeen e (e.forget n) n := by
  unfold forget
  split
  · split <;> exact didSeen_idle rfl rfl
  · exact didSeen_idle rfl rfl

theorem perform_did (e : Engine) (errand : Errand) : DidSeen e (e.perform errand) errand.number := by
  cases errand with
  | start n => exact e.start_did n
  | resume n => exact e.resume_did n
  | forget n => exact e.forget_did n

/-! ## Other moves -/

theorem cancel_spares (e : Engine) (n : Nat) : Spares e (e.cancel n) := by
  obtain ⟨queue, asked⟩ := e.cancel_eq n
  rw [asked]
  exact .of_same rfl

theorem supersede_spares (e : Engine) (uri : String) : Spares e (e.supersede uri) := by
  unfold supersede
  split
  · split
    · exact .refl e
    · exact (log_spares ..).trans (cancel_spares ..)
  · exact .refl e

theorem openDocument_spares (e : Engine) (d : Document) : Spares e (e.openDocument d).1 :=
  ((Spares.of_same rfl : Spares e (e.withSession (e.session.hold d))).trans (supersede_spares ..)).trans (.of_same rfl)

theorem closeDocument_spares (e : Engine) (uri : String) : Spares e (e.closeDocument uri).1 := by
  obtain ⟨queue, closed⟩ := e.closeDocument_eq uri
  rw [closed]
  exact ⟨_, rfl, fun _ => rfl⟩

theorem reload_spares (e : Engine) : Spares e e.reload.1 := by
  unfold reload
  split
  · exact .refl e
  · rename_i l _
    refine ⟨l.warning.toList.map (.log .warning .settings), rfl, fun t => ?_⟩
    cases l.warning <;> rfl

theorem settingsFor_spares (e : Engine) (uri path : String) : Spares e (e.settingsFor uri path).1 := by
  obtain ⟨settings, kept⟩ := e.settingsFor_keeps uri path
  rw [kept]
  exact .of_same rfl

theorem load_spares (e : Engine) (path : String) (version : Int) : Spares e (e.load path version).1 := by
  obtain ⟨settings, kept⟩ := e.load_keeps path version
  rw [kept]
  exact .of_same rfl

theorem revalidate_spares (e : Engine) (d : Document) : Spares e (e.revalidate d).1 := by
  have loaded := e.load_spares d.path d.version
  unfold revalidate
  split <;> rename_i found <;> rw [found] at loaded
  · exact loaded.trans (openDocument_spares ..)
  · exact loaded.trans (report_spares ..)
  · exact (loaded.trans (log_spares ..)).trans (openDocument_spares ..)
  · exact loaded

theorem revalidateAll_spares (e : Engine) (ds : List Document) : Spares e (e.revalidateAll ds).1 := by
  induction ds generalizing e with
  | nil => exact .refl e
  | cons d rest ih =>
    have first := e.revalidate_spares d
    unfold revalidateAll
    split <;> rename_i came <;> rw [came] at first
    · exact first
    · rename_i e' ns
      have others := ih e'
      split <;> rename_i went <;> rw [went] at others <;> exact first.trans others

theorem configurationChanged_spares (e : Engine) : Spares e e.configurationChanged.1 := by
  have reloaded := e.reload_spares
  unfold configurationChanged
  split <;> rename_i found <;> rw [found] at reloaded
  · exact reloaded
  · exact (reloaded.trans (.of_same rfl)).trans (revalidateAll_spares ..)

end Engine

end Diagnosis
