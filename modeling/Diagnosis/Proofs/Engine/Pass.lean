import Diagnosis.Engine.Move

/-!
# What a pass does

A validation works on its pass in one turn, or in two if it has to wait for its
compiler. Such a turn changes the phase of that validation, may show one set for
its document, and leaves everything else of the engine as it was.
-/

namespace Diagnosis

/-- The message of a notice, if it is an error. -/
def Notice.error? : Notice → Option String
  | .error message => some message
  | _ => none

/-- The set of a notice, if it shows one. -/
def Notice.set? : Notice → Option (String × List Diagnostic)
  | .publish uri ds => some (uri, ds)
  | _ => none

namespace Engine

/-! ## Sets in a trace -/

/-- The sets of diagnostics that a host is given in some events, with their addresses. -/
def setsIn (events : List Event) : List (String × List Diagnostic) :=
  events.filterMap fun
    | .notice (.publish uri ds) => some (uri, ds)
    | _ => none

@[simp] theorem setsIn_nil : setsIn [] = [] := rfl

@[simp] theorem setsIn_append (first second : List Event) :
    setsIn (first ++ second) = setsIn first ++ setsIn second := by
  simp [setsIn]

@[simp] theorem setsIn_log (level : LogLevel) (source : LogSource) (message : String) (rest : List Event) :
    setsIn (.log level source message :: rest) = setsIn rest := rfl

theorem setsIn_kills (files : List String) : setsIn (files.map .kill) = [] := by
  induction files with
  | nil => rfl
  | cons file rest ih => exact ih

/-- What a host is told in some events. -/
def noticesIn (events : List Event) : List Notice :=
  events.filterMap fun
    | .notice n => some n
    | _ => none

@[simp] theorem noticesIn_append (first second : List Event) :
    noticesIn (first ++ second) = noticesIn first ++ noticesIn second := by
  simp [noticesIn]

/-- The sets are among what a host is told. -/
theorem setsIn_eq_noticesIn (events : List Event) :
    setsIn events = (noticesIn events).filterMap Notice.set? := by
  rw [noticesIn, List.filterMap_filterMap, setsIn]
  refine congrArg (List.filterMap · events) (funext fun event => ?_)
  cases event with
  | notice n => cases n <;> rfl
  | _ => rfl

theorem setsIn_of_noticesIn {events : List Event} (untold : noticesIn events = []) : setsIn events = [] := by
  rw [setsIn_eq_noticesIn, untold]
  rfl

theorem setsIn_of_error {events : List Event} {message : String} (told : noticesIn events = [.error message]) :
    setsIn events = [] := by
  rw [setsIn_eq_noticesIn, told]
  rfl

theorem emit_nil (e : Engine) : e.emit [] = e := by
  simp [emit]

theorem emit_emit (e : Engine) (first second : List Event) :
    (e.emit first).emit second = e.emit (first ++ second) := by
  simp [emit]

/-! ## The set of a pass -/

/-- The set that a pass over a document shows, given its settings and how the run of its compiler
came out; nothing if it shows none. -/
def setOf (d : Document) (s : Settings) : Except Failure Output → Option (List Diagnostic)
  | .error (.engine (.invocation _)) => some []
  | .error _ => none
  | .ok o =>
    match reportOf d s o with
    | .error _ => none
    | .ok r => some (limited s.limit r.diagnostics)

@[simp] theorem limited_nil (limit : Int) : limited limit [] = [] := by
  simp [limited]

/-- The sets that are remembered when a pass has shown one for an address, if it has. -/
def remembered (published : Keyed (List Diagnostic)) (uri : String) : Option (List Diagnostic) → Keyed (List Diagnostic)
  | none => published
  | some ds => published.put uri ds

/-- What a turn that a validation spends on its pass leaves of an engine: the phase it comes to,
and the set it shows, if it shows one. -/
structure Worked (e e' : Engine) (n : Nat) (d : Document) (p : Phase) (shown : Option (List Diagnostic)) :
    Prop where
  machine : e'.machine = e.machine
  workspace : e'.workspace = e.workspace
  store : e'.store = e.store
  inflight : e'.inflight = e.inflight
  validations : e'.validations = (e.setPhase n p).validations
  documents : e'.session.documents = e.session.documents
  settings : e'.session.settings = e.session.settings
  published : e'.session.published = remembered e.session.published d.uri shown
  seen : ∃ events, e'.trace = e.trace ++ events ∧ setsIn events = shown.toList.map (d.uri, ·)
  ended : ∀ ds, p = .finished (.published ds) → shown = some ds

theorem Worked.of_emit {e e' : Engine} {n : Nat} {d : Document} {p : Phase} {shown : Option (List Diagnostic)}
    {events : List Event} (quiet : setsIn events = []) (worked : Worked (e.emit events) e' n d p shown) :
    Worked e e' n d p shown := by
  obtain ⟨later, grown, sets⟩ := worked.seen
  refine { worked with seen := ⟨events ++ later, ?_, ?_⟩ }
  · simpa [emit] using grown
  · simp [quiet, sets]

/-- A pass that ends without showing anything. -/
theorem finish_unshown (e : Engine) (n : Nat) (d : Document) {events : List Event} (quiet : setsIn events = []) :
    Worked e ((e.emit events).finish n .failed) n d (.finished .failed) none where
  machine := rfl
  workspace := rfl
  store := rfl
  inflight := rfl
  validations := rfl
  documents := rfl
  settings := rfl
  published := rfl
  seen := ⟨events, rfl, quiet⟩
  ended := by intro ds same; cases same

/-- A pass that ends when it has shown a set. -/
theorem finish_shown (e : Engine) (n : Nat) (d : Document) {ds : List Diagnostic} {events : List Event}
    {o : Outcome} (sets : setsIn events = [(d.uri, ds)]) (same : ∀ ds', o = .published ds' → ds' = ds) :
    Worked e (((e.withSession (e.session.publish d.uri ds)).emit events).finish n o) n d (.finished o) (some ds) where
  machine := rfl
  workspace := rfl
  store := rfl
  inflight := rfl
  validations := rfl
  documents := rfl
  settings := rfl
  published := rfl
  seen := ⟨events, rfl, sets⟩
  ended := by
    intro ds' finished
    rw [same ds' (Phase.finished.inj finished)]

/-! ## Failing -/

/-- The words for a failure of a pass. -/
def wordsOf : Failure → String
  | .engine f => f.message
  | f => "internal engine error: " ++ f.message

theorem report_tells (e : Engine) (f : EngineError) :
    ∃ events, e.report f = e.emit events ∧ noticesIn events = [.error (notificationOf f.message)] :=
  ⟨_, emit_emit .., rfl⟩

theorem reportInternal_tells (e : Engine) (path message : String) :
    ∃ events, e.reportInternal path message = e.emit events ∧
      noticesIn events = [.error (notificationOf ("internal engine error: " ++ message))] :=
  ⟨_, emit_emit .., rfl⟩

theorem reportFailure_tells (e : Engine) (path : String) (f : Failure) :
    ∃ events, e.reportFailure path f = e.emit events ∧ noticesIn events = [.error (notificationOf (wordsOf f))] := by
  cases f with
  | engine f => exact e.report_tells f
  | _ => exact e.reportInternal_tells ..

theorem fail_worked (e : Engine) (n : Nat) (d : Document) (f : Failure) :
    Worked e (e.fail n d f) n d (.finished .failed) none := by
  obtain ⟨events, reported, told⟩ := e.reportFailure_tells d.path f
  rw [fail, reported]
  exact finish_unshown e n d (setsIn_of_error told)

/-! ## Publishing -/

theorem publish_tells (e : Engine) (uri : String) (ds : List Diagnostic) (s : Settings) :
    ∃ events, e.publish uri ds s =
        ((e.withSession (e.session.publish uri (limited s.limit ds))).emit events, limited s.limit ds,
          e.host.refusal? uri (limited s.limit ds)) ∧
      noticesIn events = [.publish uri (limited s.limit ds)] := by
  by_cases cut : (limited s.limit ds).length < ds.length
  · refine ⟨[.log .info .engine ("Truncating " ++ Text.decimal ds.length ++ " diagnostics to " ++
        Text.decimalInt s.limit ++ " for " ++ uri), .notice (.publish uri (limited s.limit ds))], ?_, rfl⟩
    simp [publish, cut, log, tell, emit, withSession]
  · refine ⟨[.notice (.publish uri (limited s.limit ds))], ?_, rfl⟩
    simp [publish, cut, tell, emit, withSession]

theorem publish_emits (e : Engine) (uri : String) (ds : List Diagnostic) (s : Settings) :
    ∃ events, e.publish uri ds s =
        ((e.withSession (e.session.publish uri (limited s.limit ds))).emit events, limited s.limit ds,
          e.host.refusal? uri (limited s.limit ds)) ∧
      setsIn events = [(uri, limited s.limit ds)] := by
  obtain ⟨events, published, told⟩ := e.publish_tells uri ds s
  exact ⟨events, published, by rw [setsIn_eq_noticesIn, told]; rfl⟩

theorem clear_worked (e : Engine) (n : Nat) (d : Document) (s : Settings) (f : EngineError) :
    ∃ o, Worked e (e.clear n d s f) n d (.finished o) (some []) := by
  obtain ⟨reports, reported, told⟩ := e.report_tells f
  have quiet := setsIn_of_error told
  obtain ⟨events, published, sets⟩ := (e.report f).publish_emits d.uri [] s
  rw [limited_nil] at published sets
  unfold clear
  rw [published]
  cases (e.report f).host.refusal? d.uri [] with
  | none =>
    refine ⟨.published [], ?_⟩
    rw [reported]
    exact (finish_shown _ n d sets (by simp)).of_emit quiet
  | some refusal =>
    refine ⟨.failed, ?_⟩
    dsimp only
    obtain ⟨more, internal, told'⟩ :=
      (((e.report f).withSession ((e.report f).session.publish d.uri [])).emit events).reportInternal_tells
        d.path refusal.message
    rw [internal, emit_emit, reported]
    exact (finish_shown _ n d (by simp [sets, setsIn_of_error told']) (by simp)).of_emit quiet

/-! ## Running the compiler -/

theorem stopRun_worked (e : Engine) (n : Nat) (d : Document) (s : Settings) (f : Failure) :
    ∃ o, Worked e (e.stopRun n d s f) n d (.finished o) (setOf d s (.error f)) := by
  cases f with
  | engine f =>
    cases f with
    | invocation fault => exact e.clear_worked n d s (.invocation fault)
    | configuration fault => exact ⟨.failed, e.fail_worked n d (.engine (.configuration fault))⟩
    | decoding fault => exact ⟨.failed, e.fail_worked n d (.engine (.decoding fault))⟩
  | _ => exact ⟨.failed, e.fail_worked n d _⟩

theorem mentionRest_tells (e : Engine) (name : String) (r : Report) :
    ∃ events, e.mentionRest name r = e.emit events ∧
      noticesIn events = r.issues.map fun i => .log (name ++ ": " ++ i.describe) := by
  refine ⟨_, rfl, ?_⟩
  have skips : noticesIn (r.others.map (skipped name)) = [] := by
    simp [noticesIn, skipped, Event.log]
  have mentions : noticesIn (r.issues.flatMap (mention name)) =
      r.issues.map fun i => .log (name ++ ": " ++ i.describe) := by
    induction r.issues with
    | nil => rfl
    | cons issue rest ih =>
      rw [List.flatMap_cons, noticesIn_append, ih]
      rfl
  rw [noticesIn_append, noticesIn_append, skips, mentions, List.nil_append]
  by_cases none : r.filtered = 0
  · simp [none, noticesIn]
  · simp [none, noticesIn, Event.log]

theorem mentionRest_emits (e : Engine) (name : String) (r : Report) :
    ∃ events, e.mentionRest name r = e.emit events ∧ setsIn events = [] := by
  obtain ⟨events, mentioned, told⟩ := e.mentionRest_tells name r
  refine ⟨events, mentioned, ?_⟩
  rw [setsIn_eq_noticesIn, told, List.filterMap_map, List.filterMap_eq_nil_iff]
  exact fun _ _ => rfl

theorem conclude_worked (e : Engine) (n : Nat) (d : Document) (s : Settings) (reply : Reply) :
    ∃ o, Worked e (e.conclude n d s reply) n d (.finished o)
      (setOf d s (Compiler.conclude s.command reply.output).2) := by
  have quiet : setsIn [(Compiler.conclude s.command reply.output).1] = [] := rfl
  unfold conclude
  dsimp only
  cases ran : (Compiler.conclude s.command reply.output).2 with
  | error f =>
    obtain ⟨o, worked⟩ := stopRun_worked (e.emit [(Compiler.conclude s.command reply.output).1]) n d s f
    exact ⟨o, worked.of_emit quiet⟩
  | ok output =>
    dsimp only [setOf]
    cases reported : reportOf d s output with
    | error f => exact ⟨.failed, (fail_worked _ n d f).of_emit quiet⟩
    | ok r =>
      dsimp only
      obtain ⟨rest, mentioned, quietToo⟩ :=
        mentionRest_emits (e.emit [(Compiler.conclude s.command reply.output).1]) d.name r
      rw [mentioned]
      obtain ⟨events, published, sets⟩ :=
        publish_emits ((e.emit [(Compiler.conclude s.command reply.output).1]).emit rest) d.uri r.diagnostics s
      rw [published]
      cases Host.refusal? _ d.uri _ with
      | none => exact ⟨_, ((finish_shown _ n d sets (by simp)).of_emit quietToo).of_emit quiet⟩
      | some refusal => exact ⟨_, ((finish_shown _ n d sets (by simp)).of_emit quietToo).of_emit quiet⟩

/-- The run of a compiler that has been begun. -/
theorem run_of_begin (t : Toolchain) (s : Settings) (source : String) (workspace : Option String) :
    (Compiler.run t s source workspace).2 =
      match (Compiler.begin t s source workspace).2 with
      | .error f => .error f
      | .ok reply => (Compiler.conclude s.command reply.output).2 := by
  unfold Compiler.run
  cases Compiler.begin t s source workspace with
  | mk events r => cases r <;> rfl

theorem begin_untold (t : Toolchain) (s : Settings) (source : String) (workspace : Option String) :
    noticesIn (Compiler.begin t s source workspace).1 = [] := by
  unfold Compiler.begin
  cases Invocation.of s source workspace with
  | error fault => rfl
  | ok i =>
    dsimp only
    unfold Compiler.spawn
    split
    · rfl
    · dsimp only
      split <;> rfl

/-- A validation that has its settings begins its compiler. It ends its pass with the answer, or
waits for it. -/
theorem compile_worked (e : Engine) (n : Nat) (d : Document) (s : Settings) :
    (∃ o, Worked e (e.compile n d s) n d (.finished o)
      (setOf d s (Compiler.run e.machine.toolchain s d.path e.workspace).2)) ∨
    ∃ reply, (Compiler.begin e.machine.toolchain s d.path e.workspace).2 = .ok reply ∧
      Worked e (e.compile n d s) n d (.compiling s reply) none := by
  have quiet := setsIn_of_noticesIn (begin_untold e.machine.toolchain s d.path e.workspace)
  rw [run_of_begin]
  unfold compile
  dsimp only
  cases begun : (Compiler.begin e.machine.toolchain s d.path e.workspace).2 with
  | error f =>
    obtain ⟨o, worked⟩ := stopRun_worked (e.emit (Compiler.begin e.machine.toolchain s d.path e.workspace).1) n d s f
    exact .inl ⟨o, worked.of_emit quiet⟩
  | ok reply =>
    dsimp only
    split
    · refine .inr ⟨reply, rfl, Worked.of_emit quiet ?_⟩
      exact ⟨rfl, rfl, rfl, rfl, rfl, rfl, rfl, rfl, ⟨[], by simp [setPhase], rfl⟩, by intro ds same; cases same⟩
    · obtain ⟨o, worked⟩ :=
        conclude_worked (e.emit (Compiler.begin e.machine.toolchain s d.path e.workspace).1) n d s reply
      exact .inl ⟨o, worked.of_emit quiet⟩

/-! ## Finding the settings -/

/-- The settings that are in force for a path. -/
def settingsNow (e : Engine) (path : String) : Except Failure Settings :=
  e.store.settingsFor e.machine.tree e.machine.directory path

/-- Settings are either remembered, or found anew and then remembered. -/
theorem settingsFor_cases (e : Engine) (uri path : String) :
    (∃ s, e.session.settings.get? uri = some s ∧ e.settingsFor uri path = (e, .ok s)) ∨
    (∃ f, e.settingsNow path = .error f ∧ e.settingsFor uri path = (e, .error f)) ∨
    ∃ s, e.settingsNow path = .ok s ∧
      e.settingsFor uri path = (e.withSession (e.session.keepSettings uri s), .ok s) := by
  unfold settingsFor settingsNow
  cases e.session.settings.get? uri with
  | some s => exact .inl ⟨s, rfl, rfl⟩
  | none =>
    dsimp only
    cases e.store.settingsFor e.machine.tree e.machine.directory path with
    | error f => exact .inr (.inl ⟨f, rfl, rfl⟩)
    | ok s => exact .inr (.inr ⟨s, rfl, rfl⟩)

/-- Finding settings changes nothing but what is remembered of them. -/
theorem settingsFor_keeps (e : Engine) (uri path : String) :
    ∃ settings, (e.settingsFor uri path).1 = e.withSession { e.session with settings } := by
  rcases e.settingsFor_cases uri path with ⟨s, _, same⟩ | ⟨f, _, same⟩ | ⟨s, _, same⟩
  · exact ⟨_, by rw [same]; rfl⟩
  · exact ⟨_, by rw [same]; rfl⟩
  · exact ⟨_, by rw [same]; rfl⟩

theorem settingsFor_emit (e : Engine) (events : List Event) (uri path : String) :
    (e.emit events).settingsFor uri path =
      ((e.settingsFor uri path).1.emit events, (e.settingsFor uri path).2) := by
  unfold settingsFor emit
  dsimp only
  cases e.session.settings.get? uri with
  | some s => rfl
  | none =>
    dsimp only
    cases e.store.settingsFor e.machine.tree e.machine.directory path <;> rfl

/-! ## The turns of a pass -/

/-- The first turn of a pass that has not been called off: the settings are found, and the compiler
is begun if there are any. -/
theorem start_worked {e : Engine} {n : Nat} {d : Document} (known : e.validations[n]? = some ⟨d, .created, false⟩) :
    (∃ f, (e.settingsFor d.uri d.path).2 = .error f ∧
      Worked (e.settingsFor d.uri d.path).1 (e.start n) n d (.finished .failed) none) ∨
    ∃ s, (e.settingsFor d.uri d.path).2 = .ok s ∧
      ((∃ o, Worked (e.settingsFor d.uri d.path).1 (e.start n) n d (.finished o)
        (setOf d s (Compiler.run e.machine.toolchain s d.path e.workspace).2)) ∨
      ∃ reply, (Compiler.begin e.machine.toolchain s d.path e.workspace).2 = .ok reply ∧
        Worked (e.settingsFor d.uri d.path).1 (e.start n) n d (.compiling s reply) none) := by
  obtain ⟨settings, kept⟩ := e.settingsFor_keeps d.uri d.path
  have quiet : setsIn [.log .info .engine ("Validating " ++ d.path ++ " (version " ++ Text.decimalInt d.version ++ ")")]
      = [] := rfl
  simp only [start, known, Bool.false_eq_true, ↓reduceIte, log, settingsFor_emit]
  cases found : (e.settingsFor d.uri d.path).2 with
  | error f => exact .inl ⟨f, rfl, (fail_worked _ n d f).of_emit quiet⟩
  | ok s =>
    refine .inr ⟨s, rfl, ?_⟩
    rcases compile_worked ((e.settingsFor d.uri d.path).1.emit [.log .info .engine
        ("Validating " ++ d.path ++ " (version " ++ Text.decimalInt d.version ++ ")")]) n d s with
      ⟨o, worked⟩ | ⟨reply, begun, worked⟩
    · rw [kept] at worked ⊢
      exact .inl ⟨o, worked.of_emit quiet⟩
    · rw [kept] at begun worked ⊢
      exact .inr ⟨reply, begun, worked.of_emit quiet⟩

end Engine

end Diagnosis
