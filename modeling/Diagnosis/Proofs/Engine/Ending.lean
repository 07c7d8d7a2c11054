import Diagnosis.Proofs.Engine.Isolation
import Diagnosis.Proofs.Engine.Publication

/-!
# How a pass ends

A pass that is not called off ends in one of three ways. Its output is reported and
its set is shown; or its compiler gave no result, which is reported and clears the
set of its document; or something else went wrong, which is reported and leaves
that set as it was. The host is told nothing else, and other documents are left
alone. A host that does not accept the set is told all the same, but then the
validation fails: with the refusal itself, or, where the set was to be cleared, with
a report on it.
-/

namespace Diagnosis.Engine

/-! ## Endings -/

/-- How a pass ends. -/
inductive Ending where
  /-- With the report on the output of the compiler, and the most diagnostics that are shown. -/
  | reported (limit : Int) (r : Report)
  /-- The compiler gave no result. -/
  | uncompiled (fault : InvocationFault)
  /-- With any other failure. -/
  | failed (f : Failure)

namespace Ending

/-- What the host is told. -/
def notices (d : Document) : Ending → List Notice
  | reported limit r =>
    r.issues.map (fun i => .log (d.name ++ ": " ++ i.describe)) ++ [.publish d.uri (limited limit r.diagnostics)]
  | uncompiled fault => [.error (notificationOf fault.message), .publish d.uri []]
  | failed f => [.error (notificationOf (wordsOf f))]

/-- The set that takes the place of the last one, if one does. -/
def set? : Ending → Option (List Diagnostic)
  | reported limit r => some (limited limit r.diagnostics)
  | uncompiled _ => some []
  | failed _ => none

/-- What the validation gives. -/
def outcome : Ending → Outcome
  | reported limit r => .published (limited limit r.diagnostics)
  | uncompiled _ => .published []
  | failed _ => .failed

/-- Why a host does not accept the set, if there is one and the host does not. -/
def refusal? (host : Host) (d : Document) (ending : Ending) : Option Failure := ending.set?.bind (host.refusal? d.uri)

/-- The failure that goes out of the validation: that of a host which does not accept the set of a report. -/
def raised? (host : Host) (d : Document) : Ending → Option Failure
  | reported limit r => host.refusal? d.uri (limited limit r.diagnostics)
  | _ => none

/-- What the validation gives if the host does not accept the set. -/
def unaccepted (f : Failure) : Ending → Outcome
  | reported _ _ => .refused f
  | _ => .failed

/-- What the host is told besides if it does not accept the set. -/
def afterwards (f : Failure) : Ending → List Notice
  | uncompiled _ => [.error (notificationOf ("internal engine error: " ++ f.message))]
  | _ => []

/-- What the validation gives with a host. -/
def outcomeAt (host : Host) (d : Document) (ending : Ending) : Outcome :=
  ((ending.refusal? host d).map ending.unaccepted).getD ending.outcome

/-- What a host is told. -/
def noticesAt (host : Host) (d : Document) (ending : Ending) : List Notice :=
  ending.notices d ++ ((ending.refusal? host d).map ending.afterwards).getD []

section

variable {host : Host} {d : Document} {ending : Ending}

@[simp] theorem refusal?_display (ending : Ending) (d : Document) : ending.refusal? .display d = none := by
  simp [refusal?, Host.refusal?]

/-- What a host accepts comes out as it is. -/
theorem outcomeAt_of_accepted (accepted : ending.refusal? host d = none) : ending.outcomeAt host d = ending.outcome := by
  rw [outcomeAt, accepted]
  rfl

theorem noticesAt_of_accepted (accepted : ending.refusal? host d = none) :
    ending.noticesAt host d = ending.notices d := by
  rw [noticesAt, accepted]
  exact List.append_nil _

theorem outcomeAt_eq_refused_iff {f : Failure} :
    ending.outcomeAt host d = .refused f ↔ ending.raised? host d = some f := by
  unfold outcomeAt refusal?
  cases ending with
  | reported limit r =>
    dsimp only [set?, Option.bind_some, raised?]
    cases host.refusal? d.uri (limited limit r.diagnostics) <;> simp [outcome, unaccepted]
  | uncompiled fault =>
    dsimp only [set?, Option.bind_some, raised?]
    cases host.refusal? d.uri [] <;> simp [outcome, unaccepted]
  | failed g => simp [set?, outcome, raised?]

/-- A pass does not end by being called off. -/
theorem outcomeAt_ne_cancelled : ending.outcomeAt host d ≠ .cancelled := by
  unfold outcomeAt
  cases ending.refusal? host d <;> cases ending <;> simp [outcome, unaccepted]

end

/-- The ending of a pass with settings, given how the run of its compiler came out. -/
def ofRun (d : Document) (s : Settings) : Except Failure Output → Ending
  | .error (.engine (.invocation fault)) => .uncompiled fault
  | .error f => .failed f
  | .ok o =>
    match reportOf d s o with
    | .error f => .failed f
    | .ok r => .reported s.limit r

end Ending

/-- The ending of a pass that starts here. -/
def endingOf (e : Engine) (d : Document) : Ending :=
  match (e.settingsFor d.uri d.path).2 with
  | .error f => .failed f
  | .ok s => .ofRun d s (Compiler.run e.machine.toolchain s d.path e.workspace).2

/-! ## What a turn leaves -/

/-- What the turn of a validation leaves of an engine: the phase that the validation comes to, the
set that takes the place of the last one of its document, and what the host has been told. -/
structure Advanced (e e' : Engine) (n : Nat) (d : Document) (p : Phase) (set? : Option (List Diagnostic))
    (told : List Notice) : Prop where
  host : e'.host = e.host
  validations : e'.validations = (e.setPhase n p).validations
  published : e'.session.published = remembered e.session.published d.uri set?
  settings : ∀ uri, uri ≠ d.uri → e'.session.settings.get? uri = e.session.settings.get? uri
  seen : ∃ events, e'.trace = e.trace ++ events ∧ noticesIn events = told

/-- A turn ends a pass. -/
def Ends (e e' : Engine) (n : Nat) (d : Document) (ending : Ending) : Prop :=
  Advanced e e' n d (.finished (ending.outcomeAt e.host d)) ending.set? (ending.noticesAt e.host d)

section

variable {e e' : Engine} {n : Nat} {d : Document} {p : Phase} {set? : Option (List Diagnostic)} {told : List Notice}

theorem Advanced.of_emit {events : List Event} (advanced : Advanced (e.emit events) e' n d p set? told) :
    Advanced e e' n d p set? (noticesIn events ++ told) := by
  obtain ⟨later, grown, rest⟩ := advanced.seen
  refine { advanced with seen := ⟨events ++ later, ?_, ?_⟩ }
  · simpa [emit] using grown
  · rw [noticesIn_append, rest]

/-- What is told before a turn that tells the rest. -/
theorem Advanced.of_untold {events : List Event} (untold : noticesIn events = [])
    (advanced : Advanced (e.emit events) e' n d p set? told) : Advanced e e' n d p set? told := by
  have whole := advanced.of_emit
  rwa [untold, List.nil_append] at whole

theorem finish_advanced (e : Engine) (n : Nat) (d : Document) (events : List Event) (o : Outcome) :
    Advanced e ((e.emit events).finish n o) n d (.finished o) none (noticesIn events) :=
  ⟨rfl, rfl, rfl, fun _ _ => rfl, events, rfl, rfl⟩

theorem finish_published (e : Engine) (n : Nat) (d : Document) (ds : List Diagnostic) (events : List Event)
    (o : Outcome) :
    Advanced e (((e.withSession (e.session.publish d.uri ds)).emit events).finish n o) n d (.finished o) (some ds)
      (noticesIn events) :=
  ⟨rfl, rfl, rfl, fun _ _ => rfl, events, rfl, rfl⟩

end

/-! ## Failing -/

theorem fail_ends (e : Engine) (n : Nat) (d : Document) (f : Failure) : Ends e (e.fail n d f) n d (.failed f) := by
  obtain ⟨events, reported, told⟩ := e.reportFailure_tells d.path f
  have ended := finish_advanced e n d events .failed
  rw [told, ← reported] at ended
  exact ended

/-! ## Publishing -/

theorem clear_ends (e : Engine) (n : Nat) (d : Document) (s : Settings) (fault : InvocationFault) :
    Ends e (e.clear n d s (.invocation fault)) n d (.uncompiled fault) := by
  obtain ⟨reports, reported, first⟩ := e.report_tells (.invocation fault)
  obtain ⟨events, published, second⟩ := (e.report (.invocation fault)).publish_tells d.uri [] s
  rw [limited_nil] at published second
  have host : (e.report (.invocation fault)).host = e.host := by rw [reported]; rfl
  unfold clear Ends Ending.outcomeAt Ending.noticesAt Ending.refusal?
  rw [published, host]
  dsimp only [Ending.set?, Option.bind_some]
  cases e.host.refusal? d.uri [] with
  | none =>
    have ended := finish_published (e.report (.invocation fault)) n d [] events (.published [])
    rw [second, reported] at ended
    have whole := ended.of_emit
    rw [first] at whole
    rw [reported]
    exact whole
  | some refusal =>
    obtain ⟨more, internal, third⟩ :=
      (((e.report (.invocation fault)).withSession ((e.report (.invocation fault)).session.publish d.uri [])).emit
        events).reportInternal_tells d.path refusal.message
    have ended := finish_published (e.report (.invocation fault)) n d [] (events ++ more) .failed
    rw [← emit_emit, ← internal, noticesIn_append, second, third, reported] at ended
    have whole := ended.of_emit
    rw [first] at whole
    rw [reported]
    exact whole

/-! ## Running the compiler -/

theorem stopRun_ends (e : Engine) (n : Nat) (d : Document) (s : Settings) (f : Failure) :
    Ends e (e.stopRun n d s f) n d (.ofRun d s (.error f)) := by
  cases f with
  | engine f =>
    cases f with
    | invocation fault => exact e.clear_ends n d s fault
    | configuration fault => exact e.fail_ends n d _
    | decoding fault => exact e.fail_ends n d _
  | _ => exact e.fail_ends n d _

/-- A pass with a report ends when its set is shown. -/
theorem report_ends (e : Engine) (n : Nat) (d : Document) (s : Settings) (r : Report) :
    Ends e
      (match (e.mentionRest d.name r).publish d.uri r.diagnostics s with
      | (e, _, some f) => e.finish n (.refused f)
      | (e, shown, none) => e.finish n (.published shown))
      n d (.reported s.limit r) := by
  obtain ⟨rest, mentioned, first⟩ := mentionRest_tells e d.name r
  obtain ⟨events, published, second⟩ := publish_tells (e.emit rest) d.uri r.diagnostics s
  have ended := finish_published (e.emit rest) n d (limited s.limit r.diagnostics) events
  rw [second] at ended
  have whole := fun o => (ended o).of_emit
  rw [first] at whole
  have host : (e.emit rest).host = e.host := rfl
  unfold Ends Ending.outcomeAt Ending.noticesAt Ending.refusal?
  rw [mentioned, published, host]
  dsimp only [Ending.set?, Option.bind_some]
  cases e.host.refusal? d.uri (limited s.limit r.diagnostics) with
  | none => simpa [Ending.outcome, Ending.notices] using whole (.published (limited s.limit r.diagnostics))
  | some f => simpa [Ending.unaccepted, Ending.afterwards, Ending.notices] using whole (.refused f)

theorem conclude_ends (e : Engine) (n : Nat) (d : Document) (s : Settings) (reply : Reply) :
    Ends e (e.conclude n d s reply) n d (.ofRun d s (Compiler.conclude s.command reply.output).2) := by
  have untold : noticesIn [(Compiler.conclude s.command reply.output).1] = [] := rfl
  unfold conclude
  dsimp only
  cases ran : (Compiler.conclude s.command reply.output).2 with
  | error f => exact Advanced.of_untold untold (stopRun_ends _ n d s f)
  | ok output =>
    dsimp only [Ending.ofRun]
    cases reported : reportOf d s output with
    | error f => exact Advanced.of_untold untold (fail_ends _ n d f)
    | ok r =>
      exact Advanced.of_untold untold (report_ends _ n d s r)

theorem compile_ends (e : Engine) (n : Nat) (d : Document) (s : Settings) :
    Ends e (e.compile n d s) n d (.ofRun d s (Compiler.run e.machine.toolchain s d.path e.workspace).2) ∨
    ∃ reply, (Compiler.begin e.machine.toolchain s d.path e.workspace).2 = .ok reply ∧ reply.held = true ∧
      Advanced e (e.compile n d s) n d (.compiling s reply) none [] := by
  have untold := begin_untold e.machine.toolchain s d.path e.workspace
  rw [run_of_begin]
  unfold compile
  dsimp only
  cases begun : (Compiler.begin e.machine.toolchain s d.path e.workspace).2 with
  | error f => exact .inl (Advanced.of_untold untold (stopRun_ends _ n d s f))
  | ok reply =>
    dsimp only
    split
    · rename_i held
      exact .inr ⟨reply, rfl, held,
        Advanced.of_untold untold ⟨rfl, rfl, rfl, fun _ _ => rfl, [], by simp [setPhase], rfl⟩⟩
    · exact .inl (Advanced.of_untold untold (conclude_ends _ n d s reply))

/-! ## The turns of a pass -/

/-- Finding settings for a document leaves those of others alone. -/
theorem settingsFor_elsewhere (e : Engine) (d : Document) {uri : String} (other : uri ≠ d.uri) :
    (e.settingsFor d.uri d.path).1.session.settings.get? uri = e.session.settings.get? uri := by
  rcases e.settingsFor_cases d.uri d.path with ⟨s, _, same⟩ | ⟨f, _, same⟩ | ⟨s, _, same⟩
  · rw [same]
  · rw [same]
  · rw [same]
    exact Keyed.get?_put_of_ne other _ _

/-- A turn that begins by finding the settings of its document. -/
theorem Advanced.of_settingsFor {e e' : Engine} {n : Nat} {d : Document} {p : Phase}
    {set? : Option (List Diagnostic)} {told : List Notice}
    (advanced : Advanced (e.settingsFor d.uri d.path).1 e' n d p set? told) : Advanced e e' n d p set? told := by
  have elsewhere := fun uri (other : uri ≠ d.uri) => e.settingsFor_elsewhere d other
  obtain ⟨settings, kept⟩ := e.settingsFor_keeps d.uri d.path
  rw [kept] at advanced elsewhere
  exact ⟨advanced.host, advanced.validations, advanced.published,
    fun uri other => (advanced.settings uri other).trans (elsewhere uri other), advanced.seen⟩

theorem Ends.of_settingsFor {e e' : Engine} {n : Nat} {d : Document} {ending : Ending}
    (ends : Ends (e.settingsFor d.uri d.path).1 e' n d ending) : Ends e e' n d ending := by
  have whole := Advanced.of_settingsFor ends
  obtain ⟨settings, kept⟩ := e.settingsFor_keeps d.uri d.path
  rw [kept] at whole
  exact whole

/-- The first turn of a pass ends it, or waits for the compiler. -/
theorem start_ends {e : Engine} {n : Nat} {d : Document} (known : e.validations[n]? = some ⟨d, .created, false⟩) :
    Ends e (e.start n) n d (e.endingOf d) ∨
    ∃ s reply, (e.settingsFor d.uri d.path).2 = .ok s ∧
      (Compiler.begin e.machine.toolchain s d.path e.workspace).2 = .ok reply ∧ reply.held = true ∧
      Advanced e (e.start n) n d (.compiling s reply) none [] := by
  obtain ⟨settings, kept⟩ := e.settingsFor_keeps d.uri d.path
  have untold : noticesIn [.log .info .engine ("Validating " ++ d.path ++ " (version " ++
      Text.decimalInt d.version ++ ")")] = [] := rfl
  simp only [start, known, Bool.false_eq_true, ↓reduceIte, log, settingsFor_emit, endingOf]
  cases found : (e.settingsFor d.uri d.path).2 with
  | error f => exact .inl (Ends.of_settingsFor (Advanced.of_untold untold (fail_ends _ n d f)))
  | ok s =>
    rcases compile_ends ((e.settingsFor d.uri d.path).1.emit [.log .info .engine ("Validating " ++ d.path ++
        " (version " ++ Text.decimalInt d.version ++ ")")]) n d s with ended | ⟨reply, begun, held, waits⟩
    · have whole : Ends e _ n d _ := Ends.of_settingsFor (Advanced.of_untold untold ended)
      rw [kept] at whole ⊢
      exact .inl whole
    · have whole := Advanced.of_settingsFor (Advanced.of_untold untold waits)
      rw [kept] at begun whole ⊢
      exact .inr ⟨s, reply, rfl, begun, held, whole⟩

/-- A turn of a pass that has waited for its compiler ends it. -/
theorem resume_ends {e : Engine} {n : Nat} {d : Document} {s : Settings} {reply : Reply}
    (known : e.validations[n]? = some ⟨d, .compiling s reply, false⟩) :
    Ends e (e.resume n) n d (.ofRun d s (Compiler.conclude s.command reply.output).2) := by
  have goesOn : e.resume n = e.conclude n d s reply := by rw [resume, known]; rfl
  rw [goesOn]
  exact conclude_ends e n d s reply

/-- A pass that waits for its compiler ends as the one that began it would have ended. -/
theorem endingOf_of_begin {e : Engine} {d : Document} {s : Settings} {reply : Reply}
    (found : (e.settingsFor d.uri d.path).2 = .ok s)
    (begun : (Compiler.begin e.machine.toolchain s d.path e.workspace).2 = .ok reply) :
    e.endingOf d = .ofRun d s (Compiler.conclude s.command reply.output).2 := by
  rw [endingOf, found]
  dsimp only
  rw [run_of_begin, begun]

/-! ## Failures of the compiler alone clear a set -/

theorem settingsFor_error {e : Engine} {d : Document} {f : Failure} (failed : (e.settingsFor d.uri d.path).2 = .error f) :
    ∀ fault, f ≠ .engine (.invocation fault) := by
  rintro fault rfl
  rw [settingsFor_result] at failed
  cases remembered : e.session.settings.get? d.uri with
  | some s => rw [remembered] at failed; cases failed
  | none =>
    rw [remembered] at failed
    dsimp only at failed
    cases resolved : e.machine.tree.resolve e.machine.directory d.path with
    | ok p =>
      obtain ⟨other, same⟩ := settingsNow_error resolved failed
      cases same
    | error f =>
      rw [settingsNow_unresolved resolved] at failed
      cases failed
      rcases resolve_error resolved with ⟨m, same⟩ | ⟨m, same⟩ <;> cases same

theorem decodeText_uncompiled {bytes : List Nat} {encoding what : String} {f : Failure}
    (failed : decodeText bytes encoding what = .error f) : ∀ fault, f ≠ .engine (.invocation fault) := by
  rintro fault rfl
  unfold decodeText at failed
  split at failed
  · cases failed
  · split at failed
    · cases failed
    · rename_i codec _
      split at failed
      · cases failed
      · cases codec with
        | binary => cases failed
        | whole decode =>
          dsimp only at failed
          cases read : decode bytes with
          | ok cs => rw [read] at failed; cases failed
          | error refusal => rw [read] at failed; cases refusal <;> cases failed
        | decoder decode =>
          dsimp only at failed
          cases read : decode bytes with
          | ok cs => rw [read] at failed; cases failed
          | error wrong => rw [read] at failed; cases failed

theorem patternFailure_uncompiled (fault : String → String → ConfigurationFault) (text : List Char) (pattern : String)
    (wrong : Pattern.Error) : ∀ other, patternFailure fault text pattern wrong ≠ .engine (.invocation other) := by
  intro other same
  unfold patternFailure at same
  cases kind : wrong.kind with
  | _ => rw [kind] at same; cases same

theorem rulesOf_uncompiled {s : Settings} {f : Failure} (failed : Rules.of s = .error f) :
    ∀ fault, f ≠ .engine (.invocation fault) := by
  unfold Rules.of at failed
  cases delimiter : delimiterPattern s.delimiter with
  | error wrong =>
    rw [delimiter] at failed
    cases failed
    exact patternFailure_uncompiled _ _ _ wrong
  | ok first =>
    cases record : Pattern.ofChars s.record.toList with
    | error wrong =>
      rw [delimiter, record] at failed
      cases failed
      exact patternFailure_uncompiled _ _ _ wrong
    | ok second =>
      rw [delimiter, record] at failed
      dsimp only [bind, Except.bind, Except.mapError] at failed
      split at failed
      · cases failed
        exact fun fault same => by cases same
      · cases failed

theorem reportOf_error {d : Document} {s : Settings} {o : Output} {f : Failure} (failed : reportOf d s o = .error f) :
    ∀ fault, f ≠ .engine (.invocation fault) := by
  unfold reportOf at failed
  cases decoded : Compiler.textOf o s.encoding with
  | error g =>
    rw [decoded] at failed
    cases failed
    exact decodeText_uncompiled decoded
  | ok text =>
    rw [decoded] at failed
    dsimp only [bind, Except.bind] at failed
    unfold Diagnosis.report at failed
    cases read : Rules.of s with
    | error g =>
      rw [read] at failed
      cases failed
      exact rulesOf_uncompiled read
    | ok rules => rw [read] at failed; cases failed

/-- A pass that ends with another failure does not end with one of its compiler. -/
theorem endingOf_failed {e : Engine} {d : Document} {f : Failure} (ending : e.endingOf d = .failed f) :
    ∀ fault, f ≠ .engine (.invocation fault) := by
  unfold endingOf at ending
  cases found : (e.settingsFor d.uri d.path).2 with
  | error g =>
    rw [found] at ending
    cases ending
    exact settingsFor_error found
  | ok s =>
    rw [found] at ending
    dsimp only at ending
    unfold Ending.ofRun at ending
    split at ending
    · cases ending
    · rename_i g other _
      cases ending
      exact fun fault same => other fault same
    · rename_i output
      split at ending
      · rename_i g failed
        cases ending
        exact reportOf_error failed
      · cases ending

end Diagnosis.Engine
