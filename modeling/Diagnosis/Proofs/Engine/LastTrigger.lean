import Diagnosis.Proofs.Engine.Publication

/-!
# The last trigger

For every open document whose last validation has ended by publishing a set, that
set is the one that is remembered, and the one that the host was given last.
-/

namespace Diagnosis.Engine

/-! ## The last set of an address -/

/-- The last set under an address. -/
def lastOf (sets : List (String × List Diagnostic)) (uri : String) : Option (List Diagnostic) :=
  ((sets.filter (·.1 == uri)).getLast?).map Prod.snd

theorem lastOf_concat (sets : List (String × List Diagnostic)) (uri : String) (ds : List Diagnostic) (other : String) :
    lastOf (sets ++ [(uri, ds)]) other = if uri = other then some ds else lastOf sets other := by
  by_cases same : uri = other
  · simp [lastOf, same]
  · simp [lastOf, same]

theorem mem_of_lastOf {sets : List (String × List Diagnostic)} {uri : String} {ds : List Diagnostic}
    (last : lastOf sets uri = some ds) : (uri, ds) ∈ sets := by
  obtain ⟨⟨other, ds'⟩, found, rfl⟩ := Option.map_eq_some_iff.mp last
  obtain ⟨member, same⟩ := List.mem_filter.mp (List.mem_of_getLast? found)
  rw [← beq_iff_eq.mp same]
  exact member

/-- The set that a host was given last under an address. -/
def lastSet (trace : List Event) (uri : String) : Option (List Diagnostic) :=
  (((setsIn trace).filter (·.1 == uri)).getLast?).map Prod.snd

theorem lastSet_quiet {events : List Event} (quiet : setsIn events = []) (trace : List Event) (uri : String) :
    lastSet (trace ++ events) uri = lastSet trace uri := by
  simp [lastSet, quiet]

theorem lastSet_single {events : List Event} {uri : String} {ds : List Diagnostic} (sets : setsIn events = [(uri, ds)])
    (trace : List Event) (other : String) :
    lastSet (trace ++ events) other = if uri = other then some ds else lastSet trace other := by
  change lastOf (setsIn (trace ++ events)) other = _
  rw [setsIn_append, sets, lastOf_concat]
  rfl

/-! ## What is remembered -/

/-- A validation is the last one that was triggered under an address. -/
structure Latest (e : Engine) (uri : String) (n : Nat) (v : Validation) : Prop where
  known : e.validations[n]? = some v
  address : v.document.uri = uri
  last : ∀ m w, e.validations[m]? = some w → w.document.uri = uri → m ≤ n

/-- A document is open. -/
def IsOpen (e : Engine) (uri : String) : Prop := (e.session.documents.get? uri).isSome = true

/-- What is remembered of a document is what the host was given last, and it is the set of the
document's last validation if that has published one. -/
structure Mirrored (e : Engine) : Prop where
  told : ∀ uri ds, e.session.published.get? uri = some ds → lastSet e.trace uri = some ds
  current : ∀ uri n v ds, e.Latest uri n v → e.IsOpen uri → v.phase = .finished (.published ds) →
    e.session.published.get? uri = some ds

theorem Latest.before {e e' : Engine} {uri : String} {n : Nat} {v w : Validation} (latest : e'.Latest uri n v)
    (keeps : Keeps e e') (known : e.validations[n]? = some w) (document : v.document = w.document) :
    e.Latest uri n w := by
  refine ⟨known, by rw [← document]; exact latest.address, fun m x old address => ?_⟩
  obtain ⟨x', found, ages⟩ := keeps m x old
  exact latest.last m x' found (by rw [ages.document, address])

/-- While validations rest, the last one of an address that has published a set stays that. -/
theorem Latest.of_resting {e e' : Engine} {uri : String} {n : Nat} {v : Validation} {ds : List Diagnostic}
    (latest : e'.Latest uri n v) (published : v.phase = .finished (.published ds)) (resting : Resting e e')
    (keeps : Keeps e e') : ∃ w, e.Latest uri n w ∧ w.phase = .finished (.published ds) := by
  obtain ⟨w, known, document, phase⟩ := resting.stood latest.known published nofun nofun
  exact ⟨w, latest.before keeps known document, phase⟩

theorem Mirrored.of_resting {e e' : Engine} (mirrored : Mirrored e) (resting : Resting e e') (keeps : Keeps e e')
    (quiet : Quiet e e') (published : e'.session.published = e.session.published)
    (documents : e'.session.documents = e.session.documents) : Mirrored e' := by
  constructor
  · intro uri ds remembered
    obtain ⟨events, grown, none⟩ := quiet
    rw [grown, lastSet_quiet none]
    rw [published] at remembered
    exact mirrored.told uri ds remembered
  · intro uri n v ds latest open_ ended
    obtain ⟨w, before, same⟩ := latest.of_resting ended resting keeps
    rw [IsOpen, documents] at open_
    rw [published]
    exact mirrored.current uri n w ds before open_ same

theorem Mirrored.openDocument {e : Engine} (mirrored : Mirrored e) (d : Document) : Mirrored (e.openDocument d).1 := by
  have resting := resting_openDocument e d
  have keeps := keeps_openDocument e d
  obtain ⟨queue, events, quiet, opened⟩ := e.openDocument_eq d
  constructor
  · intro uri ds remembered
    rw [opened] at remembered ⊢
    rw [lastSet_quiet (setsIn_of_noticesIn quiet)]
    exact mirrored.told uri ds remembered
  · intro uri n v ds latest opens ended
    obtain ⟨w, before, same⟩ := latest.of_resting ended resting keeps
    by_cases here : uri = d.uri
    · -- the last validation of this address has only been created
      have new : (e.openDocument d).1.validations[e.validations.length]? = some { document := d } := by
        rw [opened, ← e.calledOffAt_length d.uri]
        exact List.getElem?_concat_length
      have after := latest.last _ _ new here.symm
      have inside := (List.getElem?_eq_some_iff.mp before.known).1
      omega
    · rw [opened] at opens ⊢
      have opened : e.IsOpen uri := by
        rw [IsOpen, ← Keyed.get?_put_of_ne here d e.session.documents]
        exact opens
      exact mirrored.current uri n w ds before opened same

theorem Mirrored.closeDocument {e : Engine} (mirrored : Mirrored e) (uri : String) :
    Mirrored (e.closeDocument uri).1 := by
  have keeps := keeps_closeDocument e uri
  obtain ⟨queue, closed⟩ := e.closeDocument_eq uri
  have resting : Resting e (e.closeDocument uri).1 := resting_calledOff uri (by rw [closed])
  have sets : setsIn [.notice (.publish uri [])] = [(uri, [])] := rfl
  constructor
  · intro uri' ds remembered
    rw [closed] at remembered ⊢
    rw [lastSet_single sets]
    by_cases here : uri' = uri
    · subst here
      rw [show (e.session.close uri').published.get? uri' = none from Keyed.get?_erase_self ..] at remembered
      cases remembered
    · rw [if_neg (Ne.symm here)]
      refine mirrored.told uri' ds ?_
      rw [← Keyed.get?_erase_of_ne here]
      exact remembered
  · intro uri' n v ds latest opens ended
    obtain ⟨w, before, same⟩ := latest.of_resting ended resting keeps
    rw [closed] at opens ⊢
    by_cases here : uri' = uri
    · subst here
      rw [IsOpen, show (e.session.close uri').documents.get? uri' = none from Keyed.get?_erase_self ..] at opens
      cases opens
    · have opened : e.IsOpen uri' := by
        rw [IsOpen, ← Keyed.get?_erase_of_ne here]
        exact opens
      exact (Keyed.get?_erase_of_ne here _).trans (mirrored.current uri' n w ds before opened same)

theorem Mirrored.turn {e : Engine} (mirrored : Mirrored e) (registered : Registered e) (k : Nat) :
    Mirrored (e.turn k) := by
  have keeps := keeps_turn e k
  rcases e.turn_works k with ⟨resting, quiet, session⟩ | ⟨errand, d, p, p', shown, working⟩
  · exact mirrored.of_resting resting keeps quiet (by rw [session]) (by rw [session])
  · obtain ⟨events, grown, sets⟩ := working.seen
    have published := working.published
    have documents := working.documents
    simp only [after] at grown published documents
    constructor
    · intro uri ds shows
      rw [published] at shows
      rw [grown]
      cases shown with
      | none =>
        rw [lastSet_quiet sets]
        exact mirrored.told uri ds shows
      | some ds' =>
        rw [lastSet_single sets]
        by_cases here : d.uri = uri
        · subst here
          rw [remembered, Keyed.get?_put_self] at shows
          rw [if_pos rfl, shows]
        · rw [remembered, Keyed.get?_put_of_ne (Ne.symm here)] at shows
          rw [if_neg here]
          exact mirrored.told uri ds shows
    · intro uri n v ds latest opens ended
      rw [published]
      rcases working.validation_cases latest.known with ⟨rfl, rfl⟩ | ⟨_, found⟩
      · have address := latest.address
        have shows := working.ended ds ended
        subst shows address
        exact Keyed.get?_put_self ..
      · have before := latest.before keeps found rfl
        have opened : e.IsOpen uri := by
          rw [IsOpen, ← documents]
          exact opens
        have still := mirrored.current uri n v ds before opened ended
        cases shown with
        | none => exact still
        | some ds' =>
          -- the validation that works is the last one of its own address
          have other : uri ≠ d.uri := by
            intro same
            subst same
            have held := registered.live d.uri errand.number
              ⟨_, working.known, rfl, working.progress.unfinished false, rfl⟩
            have first := registered.latest d.uri errand.number held n v found before.address
            have second := before.last errand.number _ working.known rfl
            omega
          rw [remembered, Keyed.get?_put_of_ne other]
          exact still

/-- Every move keeps what is remembered up to date. -/
theorem mirrored_invariant : Invariant fun e => Registered e ∧ Mirrored e where
  remembers e _ holds :=
    ⟨holds.1.of_same rfl rfl, holds.2.of_resting (Resting.refl e) (Keeps.refl e) (Quiet.refl e) rfl rfl⟩
  speaks e events quiet holds :=
    ⟨holds.1.of_same rfl rfl, holds.2.of_resting (Resting.refl e) (Keeps.refl e) ⟨events, rfl, quiet⟩ rfl rfl⟩
  moves e _ _ holds :=
    ⟨holds.1.of_same rfl rfl, holds.2.of_resting (Resting.refl e) (Keeps.refl e) (Quiet.refl e) rfl rfl⟩
  opens _ d holds := ⟨holds.1.openDocument d, holds.2.openDocument d⟩
  queues e _ holds :=
    ⟨holds.1.of_same rfl rfl, holds.2.of_resting (Resting.refl e) (Keeps.refl e) (Quiet.refl e) rfl rfl⟩
  closes _ uri holds := ⟨holds.1.closeDocument uri, holds.2.closeDocument uri⟩
  turns _ k holds := ⟨holds.1.turn k, holds.2.turn holds.1 k⟩
  shuts e holds := by
    obtain ⟨silent, stopped, _⟩ := shutdown_silent holds.1
    exact ⟨holds.1.shutdown, holds.2.of_resting stopped.resting (keeps_shutdown e) silent.quiet
      (by rw [silent.session]) (by rw [silent.session])⟩

theorem mirrored_create {machine : Machine} {host : Host} {folder : Path} {workspace : Option String} {e : Engine}
    (created : create machine host folder workspace = .ok e) : Mirrored e := by
  obtain ⟨validations, _, _, session, _⟩ := create_eq created
  constructor
  · intro uri ds shows
    rw [session] at shows
    cases shows
  · intro uri n v ds latest
    have known := latest.known
    rw [validations] at known
    cases known

/-- In every run of an engine, the trace has the sets of the run, those that are not shown in the
turn of a validation are empty, and the others are those that the validations computed, and come
under each address in the order in which these were triggered. For every open document whose last
validation has ended by publishing a set, that set is what is remembered and what the host was given
last. -/
theorem last_trigger_wins {machine : Machine} {host : Host} {folder : Path} {workspace : Option String} {e : Engine}
    (created : create machine host folder workspace = .ok e) (moves : List Move) :
    setsIn (e.run moves).trace = (e.publications moves).map Prod.snd ∧
    (∀ uri ds, (none, uri, ds) ∈ e.publications moves → ds = []) ∧
    (∀ n uri ds, (some n, uri, ds) ∈ e.publications moves →
      ∃ v, (e.run moves).validations[n]? = some v ∧ v.document.uri = uri ∧ Computed e moves n v.document ds) ∧
    (e.publications moves).Pairwise InOrder ∧
    (∀ uri n v ds, (e.run moves).Latest uri n v → (e.run moves).IsOpen uri →
      v.phase = .finished (.published ds) →
      (e.run moves).session.published.get? uri = some ds ∧ lastSet (e.run moves).trace uri = some ds ∧
      Computed e moves n v.document ds) := by
  obtain ⟨validations, _, _, _, quiet⟩ := create_eq created
  have registered := registered_create created
  have mirrored := (mirrored_invariant.run e moves ⟨registered, mirrored_create created⟩).2
  have unknown {n : Nat} {v : Validation} (known : e.validations[n]? = some v) : False := by
    rw [validations] at known
    cases known
  have computed {n : Nat} {uri : String} {ds : List Diagnostic} (member : (some n, uri, ds) ∈ e.publications moves) :
      ∃ v, (e.run moves).validations[n]? = some v ∧ v.document.uri = uri ∧ Computed e moves n v.document ds := by
    obtain ⟨v, known, address, _, _, own | ⟨w, _, _, before, _⟩⟩ := publication_accounted registered moves member
    · exact ⟨v, known, address, own⟩
    · exact (unknown before).elim
  refine ⟨?_, fun uri ds => unauthored_empty registered moves, fun n uri ds => computed,
    publications_ordered registered moves, ?_⟩
  · rw [setsIn_run registered moves, quiet, List.nil_append]
  · intro uri n v ds latest opens published
    have shows := mirrored.current uri n v ds latest opens published
    refine ⟨shows, mirrored.told uri ds shows, ?_⟩
    rcases published_shown registered moves latest.known published with member | ⟨w, before, _⟩
    · obtain ⟨w, known, _, own⟩ := computed member
      rw [latest.known, Option.some.injEq] at known
      subst known
      exact own
    · exact (unknown before).elim

/-- The document of the small machine is saved while its compiler is held back, which then is let
through. -/
def savedAndReleased : List Move :=
  [.opened (smallDocument 0), .turned 0, .opened (smallDocument 1), .turned 0, .turned 0, .turned 0,
    .released 1, .turned 0]

/-- The second validation publishes what it computed, and the first one nothing. -/
theorem last_trigger_wins_saved :
    ∃ e v, create smallMachine .display ⟨"/", ["home"]⟩ none = .ok e ∧
      (e.run savedAndReleased).Latest "file:///a.c" 1 v ∧ v.phase = .finished (.published smallSet) ∧
      lastSet (e.run savedAndReleased).trace "file:///a.c" = some smallSet ∧
      Computed e savedAndReleased 1 v.document smallSet := by
  have checked : (create smallMachine .display ⟨"/", ["home"]⟩ none).toOption.any (fun e =>
      (e.run savedAndReleased).validations.map (fun v => (v.document, v.phase)) =
        [(smallDocument 0, .finished .cancelled), (smallDocument 1, .finished (.published smallSet))] ∧
      ((e.run savedAndReleased).session.documents.get? "file:///a.c").isSome = true) = true := by
    decide +kernel
  obtain ⟨e, created, holds⟩ := exists_ok_of_any checked
  obtain ⟨validations, opens⟩ := of_decide_eq_true holds
  have second := congrArg (fun l : List (Document × Phase) => l[1]?) validations
  simp only [List.getElem?_map, List.getElem?_cons_succ, List.getElem?_cons_zero, Option.map_eq_some_iff,
    Prod.mk.injEq] at second
  obtain ⟨v, known, document, published⟩ := second
  have length := congrArg List.length validations
  simp only [List.length_map, List.length_cons, List.length_nil] at length
  have latest : (e.run savedAndReleased).Latest "file:///a.c" 1 v := by
    refine ⟨known, by rw [document]; rfl, fun m w found _ => ?_⟩
    have inside := (List.getElem?_eq_some_iff.mp found).1
    omega
  obtain ⟨_, last, computed⟩ :=
    (last_trigger_wins created savedAndReleased).2.2.2.2 _ _ _ _ latest opens published
  exact ⟨e, v, created, latest, published, last, computed⟩

end Diagnosis.Engine
