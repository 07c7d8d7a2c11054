import Mathlib.Data.List.Induction
import Diagnosis.Proofs.Engine.Registry

/-!
# Who publishes what

Every set that a host is given in a run is either the empty one of a document that
is closed, or is given in the turn of a validation. That validation has started in
the run, or had its compiler running when the run began, and the set is the one of
its own text, its own settings, and the output of its own compiler.
-/

namespace Diagnosis.Engine

/-! ## What a move does to validations -/

/-- No validation has gone on with its pass: those that there were stand where they stood, or have
been called off, and new ones have not started. -/
def Resting (e e' : Engine) : Prop :=
  ∀ (n : Nat) (v' : Validation), e'.validations[n]? = some v' →
    v'.phase = .created ∨ v'.phase = .finished .cancelled ∨
    ∃ v, e.validations[n]? = some v ∧ v'.document = v.document ∧ v'.phase = v.phase

theorem Resting.refl (e : Engine) : Resting e e := fun _ v known => .inr (.inr ⟨v, known, rfl, rfl⟩)

/-- A validation that has started and was not called off before stood where it stands. -/
theorem Resting.stood {e e' : Engine} (resting : Resting e e') {n : Nat} {v : Validation} {p : Phase}
    (known : e'.validations[n]? = some v) (stands : v.phase = p) (started : p ≠ .created)
    (uncancelled : p ≠ .finished .cancelled) :
    ∃ w, e.validations[n]? = some w ∧ v.document = w.document ∧ w.phase = p := by
  subst stands
  rcases resting n v known with created | cancelled | ⟨w, found, document, phase⟩
  · exact absurd created started
  · exact absurd cancelled uncancelled
  · exact ⟨w, found, document, phase.symm⟩

theorem Resting.trans {e e' e'' : Engine} (first : Resting e e') (second : Resting e' e'') : Resting e e'' := by
  intro n x last
  rcases second n x last with created | cancelled | ⟨w, found, document, phase⟩
  · exact .inl created
  · exact .inr (.inl cancelled)
  · rcases first n w found with created | cancelled | ⟨v, known, same, still⟩
    · exact .inl (phase.trans created)
    · exact .inr (.inl (phase.trans cancelled))
    · exact .inr (.inr ⟨v, known, document.trans same, phase.trans still⟩)

theorem resting_calledOff {e e' : Engine} (uri : String) (validations : e'.validations = e.calledOffAt uri) :
    Resting e e' := by
  intro n v' found
  rw [validations] at found
  obtain ⟨v, known, document, phase, _⟩ := calledOffAt_cases found
  exact .inr (.inr ⟨v, known, document, phase⟩)

theorem resting_openDocument (e : Engine) (d : Document) : Resting e (e.openDocument d).1 := by
  have called : Resting e { e with validations := e.calledOffAt d.uri } := resting_calledOff d.uri rfl
  intro n v' found
  rcases openDocument_cases found with old | ⟨_, rfl⟩
  · exact called n v' old
  · exact .inl rfl

theorem Stopped.resting {e e' : Engine} (stopped : Stopped e e') : Resting e e' := by
  intro n v' found
  obtain ⟨v, known, ages, same | cancelled⟩ := stopped n v' found
  · exact .inr (.inr ⟨v, known, ages.document, same⟩)
  · exact .inr (.inl cancelled)

/-- The trace has grown, but not by sets. -/
def Quiet (e e' : Engine) : Prop := ∃ events, e'.trace = e.trace ++ events ∧ setsIn events = []

theorem Quiet.refl (e : Engine) : Quiet e e := ⟨[], by simp, rfl⟩

theorem Quiet.trans {e e' e'' : Engine} (first : Quiet e e') (second : Quiet e' e'') : Quiet e e'' := by
  obtain ⟨events, grown, quiet⟩ := first
  obtain ⟨more, later, still⟩ := second
  exact ⟨events ++ more, by rw [later, grown, List.append_assoc], by simp [quiet, still]⟩

theorem Silent.quiet {e e' : Engine} (silent : Silent e e') : Quiet e e' := by
  obtain ⟨files, seen⟩ := silent.trace
  exact ⟨_, seen, setsIn_kills files⟩

/-- A change of the configuration rests and shows no sets. -/
theorem resting_stable (e : Engine) : Stable fun e' => Resting e e' ∧ Quiet e e' where
  remembers _ _ holds := holds
  speaks e' events quiet holds := ⟨holds.1, holds.2.trans ⟨events, rfl, quiet⟩⟩
  moves _ _ _ holds := holds
  opens e' d holds := by
    obtain ⟨queue, events, quiet, opened⟩ := e'.openDocument_eq d
    refine ⟨holds.1.trans (resting_openDocument e' d), holds.2.trans ⟨events, ?_, setsIn_of_noticesIn quiet⟩⟩
    rw [opened]

/-- In a move, a validation goes on with its pass in its turn. -/
structure Working (e : Engine) (m : Move) (errand : Errand) (d : Document) (p p' : Phase)
    (shown : Option (List Diagnostic)) : Prop where
  turn : ∃ k, m = .turned k ∧ e.queue[k]? = some errand
  known : e.validations[errand.number]? = some ⟨d, p, false⟩
  progress : Progress e d errand p p' shown
  validations : (e.after m).validations = (e.setPhase errand.number p').validations
  documents : (e.after m).session.documents = e.session.documents
  published : (e.after m).session.published = remembered e.session.published d.uri shown
  seen : ∃ events, (e.after m).trace = e.trace ++ events ∧ setsIn events = shown.toList.map (d.uri, ·)
  ended : ∀ ds, p' = .finished (.published ds) → shown = some ds

/-- In the turn of a validation it goes on, and all others stand where they stood. -/
theorem Working.validation_cases {e : Engine} {m : Move} {errand : Errand} {d : Document} {p p' : Phase}
    {shown : Option (List Diagnostic)} (working : Working e m errand d p p' shown) {n : Nat} {v : Validation}
    (found : (e.after m).validations[n]? = some v) :
    (errand.number = n ∧ v = ⟨d, p', false⟩) ∨ errand.number ≠ n ∧ e.validations[n]? = some v := by
  rw [working.validations, setPhase] at found
  rcases modify_cases found with ⟨rfl, w, known, rfl⟩ | old
  · rw [working.known, Option.some.injEq] at known
    subst known
    exact .inl ⟨rfl, rfl⟩
  · exact .inr old

theorem settingsFor_result (e : Engine) (uri path : String) :
    (e.settingsFor uri path).2 =
      match e.session.settings.get? uri with
      | some s => .ok s
      | none => e.settingsNow path := by
  unfold settingsFor settingsNow
  cases e.session.settings.get? uri with
  | some s => rfl
  | none =>
    dsimp only
    cases e.store.settingsFor e.machine.tree e.machine.directory path <;> rfl

/-- The queue has no say in how a pass goes on. -/
theorem Progress.of_queue {e : Engine} {queue : List Errand} {d : Document} {errand : Errand} {p p' : Phase}
    {shown : Option (List Diagnostic)} (progress : Progress { e with queue } d errand p p' shown) :
    Progress e d errand p p' shown := by
  have same : ({ e with queue }.settingsFor d.uri d.path).2 = (e.settingsFor d.uri d.path).2 := by
    rw [settingsFor_result, settingsFor_result]
    rfl
  cases progress with
  | unsettled found => exact .unsettled (same ▸ found)
  | whole found => exact .whole (same ▸ found)
  | begun found answer => exact .begun (same ▸ found) answer
  | answered => exact .answered

theorem turn_works (e : Engine) (k : Nat) :
    (Resting e (e.turn k) ∧ Quiet e (e.turn k) ∧ (e.turn k).session = e.session) ∨
    ∃ errand d p p' shown, Working e (.turned k) errand d p p' shown := by
  rcases e.turn_cases k with ⟨_, same⟩ | ⟨errand, e', queued, same, turned⟩
  · rw [same]
    exact .inl ⟨.refl e, .refl e, rfl⟩
  · cases turned with
    | idle => rw [same]; exact .inl ⟨Resting.refl e, Quiet.refl e, rfl⟩
    | forgotten _ _ _ => rw [same]; exact .inl ⟨Resting.refl e, Quiet.refl e, rfl⟩
    | @calledOff d p files known unended =>
      rw [same]
      refine .inl ⟨fun n v' found => ?_, ⟨_, rfl, setsIn_kills files⟩, rfl⟩
      rcases modify_cases found with ⟨_, _, _, rfl⟩ | ⟨_, old⟩
      · exact .inr (.inl rfl)
      · exact .inr (.inr ⟨v', old, rfl, rfl⟩)
    | @worked _ d p p' shown _ known progress _ worked =>
      refine .inr ⟨errand, d, p, p', shown, ⟨k, rfl, queued⟩, known, progress.of_queue, ?_, ?_, ?_, ?_, worked.ended⟩
      · simp only [after, same]
        exact worked.validations
      · simp only [after, same]
        exact worked.documents
      · simp only [after, same]
        exact worked.published
      · simp only [after, same]
        exact worked.seen

/-- In a move no validation goes on with its pass, and nothing is shown but the empty set of a
document that is closed; or one does in its turn. -/
theorem after_cases {e : Engine} (registered : Registered e) (m : Move) :
    (Resting e (e.after m) ∧ (Quiet e (e.after m) ∨
      ∃ uri, m = .closed uri ∧ (e.after m).trace = e.trace ++ [.notice (.publish uri [])])) ∨
    ∃ errand d p p' shown, Working e m errand d p p' shown := by
  have stable := resting_stable e
  have still : Resting e e ∧ Quiet e e := ⟨.refl e, .refl e⟩
  have rests {e' : Engine} (both : Resting e e' ∧ Quiet e e') : Resting e e' ∧ (Quiet e e' ∨
      ∃ uri, m = .closed uri ∧ e'.trace = e.trace ++ [.notice (.publish uri [])]) :=
    ⟨both.1, .inl both.2⟩
  cases m with
  | opened d => exact .inl (rests (stable.opens e d still))
  | configured => exact .inl (rests (stable.configurationChanged e still))
  | loaded path version => exact .inl (rests (stable.load e path version still))
  | consulted d =>
    obtain ⟨settings, same⟩ := e.settingsFor_keeps d.uri d.path
    refine .inl (rests ?_)
    simp only [after, same]
    exact still
  | released n => exact .inl (rests still)
  | moved machine => exact .inl (rests still)
  | closed uri =>
    obtain ⟨queue, closed⟩ := e.closeDocument_eq uri
    refine .inl ⟨resting_calledOff uri ?_, .inr ⟨uri, rfl, ?_⟩⟩
    · simp only [after, closed]
    · simp only [after, closed]
  | shut =>
    obtain ⟨silent, stopped, _⟩ := shutdown_silent registered
    exact .inl (rests ⟨stopped.resting, silent.quiet⟩)
  | turned k =>
    rcases e.turn_works k with ⟨resting, quiet, _⟩ | working
    · exact .inl (rests ⟨resting, quiet⟩)
    · exact .inr working

/-! ## Sets with their authors -/

/-- The validation whose turn a move is, if it is one. -/
def author (e : Engine) : Move → Option Nat
  | .turned k => e.queue[k]?.map Errand.number
  | _ => none

/-- The sets that a move shows. -/
def sent (e : Engine) (m : Move) : List (String × List Diagnostic) :=
  setsIn ((e.after m).trace.drop e.trace.length)

/-- The sets that a run shows, each with the validation whose turn it was, and the address. -/
def publications (e : Engine) : List Move → List (Option Nat × String × List Diagnostic)
  | [] => []
  | m :: rest => (e.sent m).map (e.author m, ·) ++ (e.after m).publications rest

theorem publications_concat (e : Engine) (moves : List Move) (m : Move) :
    e.publications (moves ++ [m]) =
      e.publications moves ++ ((e.run moves).sent m).map ((e.run moves).author m, ·) := by
  induction moves generalizing e with
  | nil => simp [publications]
  | cons first rest ih => simp [publications, ih, run_cons]

theorem sent_of_grown {e : Engine} {m : Move} {events : List Event} (grown : (e.after m).trace = e.trace ++ events) :
    e.sent m = setsIn events := by
  simp [sent, grown]

theorem Working.sent_eq {e : Engine} {m : Move} {errand : Errand} {d : Document} {p p' : Phase}
    {shown : Option (List Diagnostic)} (working : Working e m errand d p p' shown) :
    e.sent m = shown.toList.map (d.uri, ·) ∧ e.author m = some errand.number := by
  obtain ⟨events, grown, sets⟩ := working.seen
  obtain ⟨k, rfl, queued⟩ := working.turn
  refine ⟨(sent_of_grown grown).trans sets, ?_⟩
  rw [author, queued]
  rfl

/-- A move shows at most one set: the empty one of a document that is closed, or that of a validation
in its turn. -/
theorem sent_cases {e : Engine} (registered : Registered e) (m : Move) :
    e.sent m = [] ∨ e.author m = none ∧ (∃ uri, e.sent m = [(uri, [])]) ∨
    ∃ errand d p p' ds, Working e m errand d p p' (some ds) ∧ e.sent m = [(d.uri, ds)] ∧
      e.author m = some errand.number := by
  rcases after_cases registered m with ⟨_, ⟨events, grown, quiet⟩ | ⟨uri', rfl, grown⟩⟩ |
    ⟨errand, d, p, p', shown, working⟩
  · exact .inl ((sent_of_grown grown).trans quiet)
  · exact .inr (.inl ⟨rfl, uri', sent_of_grown grown⟩)
  · obtain ⟨sent, authored⟩ := working.sent_eq
    cases shown with
    | none => exact .inl sent
    | some ds => exact .inr (.inr ⟨errand, d, p, p', ds, working, sent, authored⟩)

theorem mem_sent {e : Engine} (registered : Registered e) {m : Move} {uri : String} {ds : List Diagnostic}
    (member : (uri, ds) ∈ e.sent m) :
    e.author m = none ∧ ds = [] ∨
    ∃ errand d p p', Working e m errand d p p' (some ds) ∧ d.uri = uri ∧ e.author m = some errand.number := by
  rcases sent_cases registered m with nothing | ⟨nobody, uri', closes⟩ | ⟨errand, d, p, p', ds', working, sent, known⟩
  · rw [nothing] at member
    cases member
  · rw [closes, List.mem_singleton] at member
    cases member
    exact .inl ⟨nobody, rfl⟩
  · rw [sent, List.mem_singleton] at member
    cases member
    exact .inr ⟨errand, d, p, p', working, rfl, known⟩

/-- The trace has all sets of the run. -/
theorem setsIn_run {e : Engine} (registered : Registered e) (moves : List Move) :
    setsIn (e.run moves).trace = setsIn e.trace ++ (e.publications moves).map Prod.snd := by
  induction moves using List.reverseRecOn with
  | nil => simp [publications]
  | append_singleton moves m ih =>
    have grows : ∃ events, ((e.run moves).after m).trace = (e.run moves).trace ++ events := by
      rcases after_cases (registered.run moves) m with ⟨_, ⟨events, grown, _⟩ | ⟨uri, _, grown⟩⟩ |
        ⟨errand, d, p, p', shown, working⟩
      · exact ⟨events, grown⟩
      · exact ⟨_, grown⟩
      · obtain ⟨events, grown, _⟩ := working.seen
        exact ⟨events, grown⟩
    obtain ⟨events, grown⟩ := grows
    rw [run_concat, grown, setsIn_append, ih, publications_concat, sent_of_grown grown]
    simp [Function.comp_def]

theorem mem_publications_concat {e : Engine} {moves : List Move} {m : Move} {author : Option Nat} {uri : String}
    {ds : List Diagnostic} :
    (author, uri, ds) ∈ e.publications (moves ++ [m]) ↔
      (author, uri, ds) ∈ e.publications moves ∨
      (e.run moves).author m = author ∧ (uri, ds) ∈ (e.run moves).sent m := by
  rw [publications_concat, List.mem_append, List.mem_map]
  constructor
  · rintro (old | ⟨set, new, same⟩)
    · exact .inl old
    · cases same
      exact .inr ⟨rfl, new⟩
  · rintro (old | ⟨rfl, new⟩)
    · exact .inl old
    · exact .inr ⟨(uri, ds), new, rfl⟩

/-- What is shown outside the turns of validations is the empty set. -/
theorem unauthored_empty {e : Engine} (registered : Registered e) (moves : List Move) {uri : String}
    {ds : List Diagnostic} (member : (none, uri, ds) ∈ e.publications moves) : ds = [] := by
  induction moves using List.reverseRecOn with
  | nil => cases member
  | append_singleton moves m ih =>
    rcases mem_publications_concat.mp member with old | ⟨unknown, new⟩
    · exact ih old
    · rcases mem_sent (registered.run moves) new with ⟨_, empty⟩ | ⟨errand, d, p, p', _, _, known⟩
      · exact empty
      · rw [unknown] at known
        cases known

/-! ## Where sets come from -/

/-- In a run a validation of a document starts, in the engine `x`, with the settings it finds. -/
def Started (e : Engine) (moves : List Move) (n : Nat) (d : Document) (s : Settings) (x : Engine) : Prop :=
  ∃ before k later, moves = before ++ .turned k :: later ∧ x = e.run before ∧ x.queue[k]? = some (.start n) ∧
    x.validations[n]? = some ⟨d, .created, false⟩ ∧ (x.settingsFor d.uri d.path).2 = .ok s

/-- A set is the one of a validation that starts in a run: that of its own text, the settings it
finds at its start, and the output of the compiler it begins there. -/
def Computed (e : Engine) (moves : List Move) (n : Nat) (d : Document) (ds : List Diagnostic) : Prop :=
  ∃ s x, Started e moves n d s x ∧
    setOf d s (Compiler.run x.machine.toolchain s d.path x.workspace).2 = some ds

/-- A set is the one of a validation whose compiler is running already. -/
def Pending (e : Engine) (n : Nat) (d : Document) (ds : List Diagnostic) : Prop :=
  ∃ v s reply, e.validations[n]? = some v ∧ v.document = d ∧ v.phase = .compiling s reply ∧
    setOf d s (Compiler.conclude s.command reply.output).2 = some ds

theorem Started.concat {e : Engine} {moves : List Move} {n : Nat} {d : Document} {s : Settings} {x : Engine}
    (started : Started e moves n d s x) (m : Move) : Started e (moves ++ [m]) n d s x := by
  obtain ⟨before, k, later, rfl, found⟩ := started
  exact ⟨before, k, later ++ [m], by simp, found⟩

/-- A validation whose compiler is running has started in the run, or had it running before. -/
theorem compiling_origin {e : Engine} (registered : Registered e) (moves : List Move) {n : Nat} {v : Validation}
    {s : Settings} {reply : Reply} (known : (e.run moves).validations[n]? = some v)
    (compiling : v.phase = .compiling s reply) :
    (∃ x, Started e moves n v.document s x ∧
      (Compiler.begin x.machine.toolchain s v.document.path x.workspace).2 = .ok reply) ∨
    ∃ w, e.validations[n]? = some w ∧ w.document = v.document ∧ w.phase = .compiling s reply := by
  induction moves using List.reverseRecOn generalizing v with
  | nil => exact .inr ⟨v, known, rfl, compiling⟩
  | append_singleton moves m ih =>
    have earlier {w : Validation} (found : (e.run moves).validations[n]? = some w)
        (document : v.document = w.document) (running : w.phase = .compiling s reply) :
        (∃ x, Started e (moves ++ [m]) n v.document s x ∧
          (Compiler.begin x.machine.toolchain s v.document.path x.workspace).2 = .ok reply) ∨
        ∃ w, e.validations[n]? = some w ∧ w.document = v.document ∧ w.phase = .compiling s reply := by
      rw [document]
      rcases ih found running with ⟨x, started, begun⟩ | before
      · exact .inl ⟨x, started.concat m, begun⟩
      · exact .inr before
    rw [run_concat] at known
    rcases after_cases (registered.run moves) m with ⟨resting, _⟩ | ⟨errand, d, p, p', shown, working⟩
    · obtain ⟨w, found, document, phase⟩ := resting.stood known compiling nofun nofun
      exact earlier found document phase
    · rcases working.validation_cases known with ⟨rfl, rfl⟩ | ⟨_, found⟩
      · obtain ⟨k, rfl, queued⟩ := working.turn
        cases working.progress with
        | begun settled answer =>
          cases compiling
          exact .inl ⟨_, ⟨moves, k, [], rfl, rfl, queued, working.known, settled⟩, answer⟩
        | unsettled _ => cases compiling
        | whole _ => cases compiling
        | answered => cases compiling
      · exact earlier found rfl compiling

theorem Computed.concat {e : Engine} {moves : List Move} {n : Nat} {d : Document} {ds : List Diagnostic}
    (computed : Computed e moves n d ds) (m : Move) : Computed e (moves ++ [m]) n d ds := by
  obtain ⟨s, x, started, set⟩ := computed
  exact ⟨s, x, started.concat m, set⟩

/-- The set that a validation shows in its turn is its own. -/
theorem Working.origin {e : Engine} (registered : Registered e) {moves : List Move} {m : Move} {errand : Errand}
    {d : Document} {p p' : Phase} {ds : List Diagnostic}
    (working : Working (e.run moves) m errand d p p' (some ds)) :
    Computed e (moves ++ [m]) errand.number d ds ∨ Pending e errand.number d ds := by
  obtain ⟨k, rfl, queued⟩ := working.turn
  have known := working.known
  obtain ⟨shown, same⟩ : ∃ shown, shown = some ds := ⟨_, rfl⟩
  have progress := working.progress
  rw [← same] at progress
  cases progress with
  | unsettled _ => cases same
  | begun _ _ => cases same
  | whole settled => exact .inl ⟨_, _, ⟨moves, k, [], rfl, rfl, queued, known, settled⟩, same⟩
  | @answered n s reply o =>
    rcases compiling_origin registered moves known rfl with ⟨x, started, begun⟩ | ⟨w, before, document, phase⟩
    · refine .inl ⟨s, x, started.concat _, ?_⟩
      rw [run_of_begin, begun]
      exact same
    · exact .inr ⟨w, s, reply, before, document, phase, same⟩

/-- A validation has shown a set of its own, and has ended without being called off. -/
def Accounted (e : Engine) (moves : List Move) (n : Nat) (uri : String) (ds : List Diagnostic) : Prop :=
  ∃ v, (e.run moves).validations[n]? = some v ∧ v.document.uri = uri ∧ v.isDone = true ∧ v.cancelled = false ∧
    (Computed e moves n v.document ds ∨ Pending e n v.document ds)

theorem Progress.shown_ended {e : Engine} {d : Document} {errand : Errand} {p p' : Phase} {ds : List Diagnostic}
    (progress : Progress e d errand p p' (some ds)) : ∃ o, p' = .finished o := by
  obtain ⟨shown, same⟩ : ∃ shown, shown = some ds := ⟨_, rfl⟩
  rw [← same] at progress
  cases progress with
  | unsettled _ => cases same
  | begun _ _ => cases same
  | whole _ => exact ⟨_, rfl⟩
  | answered => exact ⟨_, rfl⟩

/-- Every set that is shown in a turn is the own one of the validation whose turn it was, which has
ended with it. -/
theorem publication_accounted {e : Engine} (registered : Registered e) (moves : List Move) {n : Nat} {uri : String}
    {ds : List Diagnostic} (member : (some n, uri, ds) ∈ e.publications moves) : Accounted e moves n uri ds := by
  induction moves using List.reverseRecOn with
  | nil => cases member
  | append_singleton moves m ih =>
    rcases mem_publications_concat.mp member with old | ⟨authored, new⟩
    · obtain ⟨v, known, address, ended, uncalled, origin⟩ := ih old
      obtain ⟨v', found, ages⟩ := (registered.run moves).keeps [m] n v known
      have same := ages.ended ended
      subst same
      rw [← run_append] at found
      exact ⟨v', found, address, ended, uncalled, origin.imp_left (·.concat m)⟩
    · rcases mem_sent (registered.run moves) new with ⟨nobody, _⟩ | ⟨errand, d, p, p', working, address, known⟩
      · rw [authored] at nobody
        cases nobody
      · rw [authored, Option.some.injEq] at known
        subst known
        obtain ⟨o, rfl⟩ := working.progress.shown_ended
        refine ⟨⟨d, .finished o, false⟩, ?_, address, rfl, rfl, working.origin registered⟩
        rw [run_concat, working.validations, setPhase, List.getElem?_modify, working.known]
        simp

/-- A validation that has ended by publishing a set has shown it in its turn, or had done so
before. -/
theorem published_shown {e : Engine} (registered : Registered e) (moves : List Move) {n : Nat} {v : Validation}
    {ds : List Diagnostic} (known : (e.run moves).validations[n]? = some v)
    (published : v.phase = .finished (.published ds)) :
    (some n, v.document.uri, ds) ∈ e.publications moves ∨
    ∃ w, e.validations[n]? = some w ∧ w.phase = .finished (.published ds) := by
  induction moves using List.reverseRecOn generalizing v with
  | nil => exact .inr ⟨v, known, published⟩
  | append_singleton moves m ih =>
    rw [run_concat] at known
    rcases after_cases (registered.run moves) m with ⟨resting, _⟩ | ⟨errand, d, p, p', shown, working⟩
    · obtain ⟨w, found, document, phase⟩ := resting.stood known published nofun nofun
      rw [document]
      exact (ih found phase).imp_left fun member => mem_publications_concat.mpr (.inl member)
    · rcases working.validation_cases known with ⟨rfl, rfl⟩ | ⟨_, found⟩
      · have shows := working.ended ds published
        subst shows
        obtain ⟨sent, authored⟩ := working.sent_eq
        refine .inl (mem_publications_concat.mpr (.inr ⟨authored, ?_⟩))
        simp [sent]
      · exact (ih found published).imp_left fun member => mem_publications_concat.mpr (.inl member)

/-! ## The order of sets -/

/-- Of two sets that validations show under one address, the first is that of the validation
triggered first. -/
def InOrder (first second : Option Nat × String × List Diagnostic) : Prop :=
  ∀ m n, first.1 = some m → second.1 = some n → first.2.1 = second.2.1 → m < n

/-- Sets come in the order of their validations: the one that works is the last of its address, and
all that have shown a set have ended. -/
theorem publications_ordered {e : Engine} (registered : Registered e) (moves : List Move) :
    (e.publications moves).Pairwise InOrder := by
  induction moves using List.reverseRecOn with
  | nil => exact .nil
  | append_singleton moves m ih =>
    rw [publications_concat, List.pairwise_append]
    refine ⟨ih, ?_, ?_⟩
    · rcases sent_cases (registered.run moves) m with nothing | ⟨_, uri, single⟩ | ⟨_, d, _, _, ds, _, single, _⟩
      · rw [nothing]
        exact .nil
      · rw [single]
        exact List.pairwise_singleton ..
      · rw [single]
        exact List.pairwise_singleton ..
    · rintro ⟨_, uri, ds⟩ old ⟨_, uri', ds'⟩ new i j first second address
      change uri = uri' at address
      subst first second address
      obtain ⟨⟨_, _⟩, shown, same⟩ := List.mem_map.mp new
      simp only [Prod.mk.injEq] at same
      obtain ⟨authored, rfl, rfl⟩ := same
      obtain ⟨v, known, document, ended, _⟩ := publication_accounted registered moves old
      rcases mem_sent (registered.run moves) shown with ⟨nobody, _⟩ | ⟨errand, d, p, p', working, documentToo, known'⟩
      · rw [authored] at nobody
        cases nobody
      · rw [authored, Option.some.injEq] at known'
        subst known'
        have unfinished := working.progress.unfinished false
        have held := (registered.run moves).live _ errand.number ⟨_, working.known, documentToo, unfinished, rfl⟩
        have last := (registered.run moves).latest _ errand.number held i v known document
        have other : i ≠ errand.number := by
          intro same
          subst same
          rw [working.known, Option.some.injEq] at known
          subst known
          rw [unfinished] at ended
          cases ended
        omega

end Diagnosis.Engine
