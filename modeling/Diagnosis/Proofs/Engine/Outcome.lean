import Diagnosis.Proofs.Engine.Host
import Diagnosis.Proofs.Engine.Waiting

/-!
# What comes of a validation

Of the turns that a validation has in a run, one ends its pass, and the others do
nothing that can be seen. This is proved from what each move does to validations
that have not been called off.
-/

namespace Diagnosis

namespace Engine

/-! ## Validations that are not called off -/

/-- All validations are still there, and those that have not been called off are as they were, or
are new. -/
structure Calm (e e' : Engine) : Prop where
  keeps : Keeps e e'
  uncalled : ∀ (n : Nat) (v' : Validation), e'.validations[n]? = some v' → v'.cancelled = false →
    e.validations[n]? = some v' ∨ e.validations[n]? = none ∧ v'.phase = .created

theorem Calm.of_same {e e' : Engine} (same : e'.validations = e.validations) : Calm e e' where
  keeps n v known := ⟨v, by rw [same, known], .refl v⟩
  uncalled n v' found _ := .inl (by rw [← same, found])

theorem Calm.trans {e e' e'' : Engine} (first : Calm e e') (second : Calm e' e'') : Calm e e'' where
  keeps := first.keeps.trans second.keeps
  uncalled n v' found uncalled := by
    rcases second.uncalled n v' found uncalled with there | ⟨unborn, created⟩
    · exact first.uncalled n v' there uncalled
    · refine .inr ⟨?_, created⟩
      cases known : e.validations[n]? with
      | none => rfl
      | some v =>
        obtain ⟨w, born, _⟩ := first.keeps n v known
        rw [unborn] at born
        cases born

theorem calm_callOff {e e' : Engine} (uri : String) (validations : e'.validations = e.calledOffAt uri) : Calm e e' where
  keeps := keeps_callOff uri validations
  uncalled n v' found uncalled := by
    rw [validations] at found
    obtain ⟨v, known, _, _, same, _⟩ := calledOffAt_cases found
    exact .inl (same uncalled ▸ known)

theorem calm_openDocument (e : Engine) (d : Document) : Calm e (e.openDocument d).1 where
  keeps := keeps_openDocument e d
  uncalled n v' found uncalled := by
    have called : Calm e { e with validations := e.calledOffAt d.uri } := calm_callOff d.uri rfl
    rcases openDocument_cases found with old | ⟨rfl, rfl⟩
    · exact called.uncalled n v' old uncalled
    · exact .inr ⟨List.getElem?_eq_none (Nat.le_refl _), rfl⟩

theorem calm_stable (e : Engine) : Stable fun e' => Calm e e' where
  remembers _ _ holds := holds.trans (.of_same rfl)
  speaks _ _ _ holds := holds.trans (.of_same rfl)
  moves _ _ _ holds := holds.trans (.of_same rfl)
  opens e' d holds := holds.trans (calm_openDocument e' d)

theorem calm_shutdown {e : Engine} (registered : Registered e) : Calm e e.shutdown where
  keeps := keeps_shutdown e
  uncalled n v' found uncalled := by
    have all := foldl_cancel_settled registered
    obtain ⟨validations, queue, called, points⟩ := e.foldl_cancel_eq (e.inflight.map Prod.snd)
    obtain ⟨_, stopped⟩ := steps_settled (2 * ((e.inflight.map Prod.snd).foldl cancel e).queue.length) all
    obtain ⟨w, known, ages, _⟩ := stopped n v' found
    -- one that has not been called off even now had ended before
    have still : v' = w := by
      rcases all n w known with ended | cancelled
      · exact ages.ended ended
      · rw [ages.called cancelled] at uncalled
        cases uncalled
    subst still
    rw [called] at known
    change validations[n]? = some v' at known
    rw [points, Option.map_eq_some_iff] at known
    obtain ⟨v, before, rfl⟩ := known
    refine .inl ?_
    split at uncalled
    · rw [if_pos ‹_›, before, Validation.asked_uncalled uncalled]
    · rw [if_neg ‹_›, before]

theorem calm_after {e : Engine} (registered : Registered e) {m : Move} (unturned : ∀ k, m ≠ .turned k) :
    Calm e (e.after m) := by
  have still : Calm e e := .of_same rfl
  cases m with
  | opened d => exact calm_openDocument e d
  | closed uri =>
    obtain ⟨queue, closed⟩ := e.closeDocument_eq uri
    refine calm_callOff uri ?_
    simp only [after, closed]
  | configured => exact (calm_stable e).configurationChanged e still
  | shut => exact calm_shutdown registered
  | loaded path version => exact (calm_stable e).load e path version still
  | consulted d =>
    obtain ⟨settings, same⟩ := e.settingsFor_keeps d.uri d.path
    refine .of_same ?_
    simp only [after, same]
    rfl
  | released n => exact .of_same rfl
  | turned k => exact absurd rfl (unturned k)
  | moved machine => exact .of_same rfl

/-- Only in its own turns a validation that is not called off goes on. -/
theorem uncalled_elsewhere {e : Engine} (registered : Registered e) {m : Move} {n : Nat} {v' : Validation}
    (elsewhere : e.author m ≠ some n) (found : (e.after m).validations[n]? = some v') (uncalled : v'.cancelled = false) :
    e.validations[n]? = some v' ∨ e.validations[n]? = none ∧ v'.phase = .created := by
  by_cases turn : ∃ k, m = .turned k
  · obtain ⟨k, rfl⟩ := turn
    have found : (e.turn k).validations[n]? = some v' := found
    refine .inl ?_
    rcases e.turn_cases k with ⟨_, same⟩ | ⟨errand, e', queued, same, turned⟩
    · rwa [same] at found
    · have other : errand.number ≠ n := by
        rintro rfl
        exact elsewhere (by rw [author, queued]; rfl)
      rw [same] at found
      cases turned with
      | idle => exact found
      | forgotten _ _ _ => exact found
      | calledOff _ _ =>
        rcases modify_cases found with ⟨here, _⟩ | ⟨_, known⟩
        · exact absurd here other
        · exact known
      | worked _ _ _ worked =>
        rw [worked.validations] at found
        rcases modify_cases found with ⟨here, _⟩ | ⟨_, known⟩
        · exact absurd here other
        · exact known
  · exact (calm_after registered fun k same => turn ⟨k, same⟩).uncalled n v' found uncalled

/-! ## Turns -/

/-- Nothing is seen but what the log has, and at most the settings of a document are remembered. -/
structure Rests (uri : String) (e e' : Engine) : Prop where
  published : e'.session.published = e.session.published
  settings : ∀ other, other ≠ uri → e'.session.settings.get? other = e.session.settings.get? other
  untold : ∃ events, e'.trace = e.trace ++ events ∧ noticesIn events = []

theorem Rests.of_silent {e e' : Engine} (silent : Silent e e') (uri : String) : Rests uri e e' := by
  obtain ⟨files, seen⟩ := silent.trace
  refine ⟨by rw [silent.session], fun other _ => by rw [silent.session], files.map .kill, seen, ?_⟩
  simp [noticesIn]

theorem Advanced.rests {e e' : Engine} {n : Nat} {d : Document} {p : Phase}
    (advanced : Advanced e e' n d p none []) : Rests d.uri e e' :=
  ⟨advanced.published, advanced.settings, advanced.seen⟩

theorem Advanced.known {e e' : Engine} {n : Nat} {d : Document} {p : Phase} {set? : Option (List Diagnostic)}
    {told : List Notice} (advanced : Advanced e e' n d p set? told) {v : Validation} (known : e.validations[n]? = some v) :
    e'.validations[n]? = some { v with phase := p } := by
  rw [advanced.validations, setPhase, List.getElem?_modify, known]
  simp

/-- The queue has no say in how a pass goes on. -/
theorem Advanced.of_queue {e e' : Engine} {queue : List Errand} {n : Nat} {d : Document} {p : Phase}
    {set? : Option (List Diagnostic)} {told : List Notice}
    (advanced : Advanced { e with queue } e' n d p set? told) : Advanced e e' n d p set? told :=
  ⟨advanced.host, advanced.validations, advanced.published, advanced.settings, advanced.seen⟩

theorem endingOf_queue (e : Engine) (queue : List Errand) (d : Document) :
    { e with queue }.endingOf d = e.endingOf d := by
  unfold endingOf
  rw [settingsFor_result, settingsFor_result]
  rfl

theorem turn_perform {e : Engine} {k : Nat} {errand : Errand} (queued : e.queue[k]? = some errand) :
    e.turn k = { e with queue := e.queue.eraseIdx k }.perform errand := by
  rw [turn, queued]

/-- The pass of a validation starts with a turn. -/
def Starts (e : Engine) (k n : Nat) (d : Document) : Prop :=
  e.queue[k]? = some (.start n) ∧ e.validations[n]? = some ⟨d, .created, false⟩

theorem Starts.ends {e : Engine} {k n : Nat} {d : Document} (starts : Starts e k n d) :
    Ends e (e.turn k) n d (e.endingOf d) ∨
    ∃ s reply, e.endingOf d = .ofRun d s (Compiler.conclude s.command reply.output).2 ∧
      (Compiler.begin e.machine.toolchain s d.path e.workspace).2 = .ok reply ∧ reply.held = true ∧
      Advanced e (e.turn k) n d (.compiling s reply) none [] := by
  obtain ⟨queued, known⟩ := starts
  have turned : e.turn k = { e with queue := e.queue.eraseIdx k }.start n := turn_perform queued
  rw [turned, ← e.endingOf_queue (e.queue.eraseIdx k)]
  rcases start_ends (e := { e with queue := e.queue.eraseIdx k }) known with
    ends | ⟨s, reply, found, begun, held, waits⟩
  · exact .inl (Advanced.of_queue ends)
  · exact .inr ⟨s, reply, endingOf_of_begin found begun, begun, held, waits.of_queue⟩

theorem resumed_ends {e : Engine} {k n : Nat} {d : Document} {s : Settings} {reply : Reply}
    (queued : e.queue[k]? = some (.resume n)) (known : e.validations[n]? = some ⟨d, .compiling s reply, false⟩) :
    Ends e (e.turn k) n d (.ofRun d s (Compiler.conclude s.command reply.output).2) := by
  have turned : e.turn k = { e with queue := e.queue.eraseIdx k }.resume n := turn_perform queued
  rw [turned]
  exact Advanced.of_queue (resume_ends (e := { e with queue := e.queue.eraseIdx k }) known)

/-- What its turn makes of a validation that has not been called off. -/
inductive Went (e : Engine) (k n : Nat) : Validation → Prop where
  /-- There was nothing to do. -/
  | rested {v : Validation} (known : e.validations[n]? = some v) (rests : ∀ uri, Rests uri e (e.turn k)) : Went e k n v
  /-- Its pass has started, and waits for the compiler. -/
  | waits {d : Document} {s : Settings} {reply : Reply} (starts : Starts e k n d)
      (ending : e.endingOf d = .ofRun d s (Compiler.conclude s.command reply.output).2)
      (begun : (Compiler.begin e.machine.toolchain s d.path e.workspace).2 = .ok reply)
      (held : reply.held = true)
      (waits : Advanced e (e.turn k) n d (.compiling s reply) none []) : Went e k n ⟨d, .compiling s reply, false⟩
  /-- Its pass has started, and has ended. -/
  | ended {d : Document} (starts : Starts e k n d) (ends : Ends e (e.turn k) n d (e.endingOf d)) :
      Went e k n ⟨d, .finished ((e.endingOf d).outcomeAt e.host d), false⟩
  /-- Its pass has waited for the compiler, and has ended. -/
  | answered {d : Document} {s : Settings} {reply : Reply} {ending : Ending}
      (known : e.validations[n]? = some ⟨d, .compiling s reply, false⟩)
      (same : ending = .ofRun d s (Compiler.conclude s.command reply.output).2)
      (ends : Ends e (e.turn k) n d ending) : Went e k n ⟨d, .finished (ending.outcomeAt e.host d), false⟩

theorem Progress.from_phase {e : Engine} {d : Document} {errand : Errand} {p p' : Phase}
    {shown : Option (List Diagnostic)} (progress : Progress e d errand p p' shown) :
    (errand = .start errand.number ∧ p = .created) ∨
    errand = .resume errand.number ∧ ∃ s reply, p = .compiling s reply := by
  cases progress with
  | unsettled _ => exact .inl ⟨rfl, rfl⟩
  | whole _ => exact .inl ⟨rfl, rfl⟩
  | begun _ _ => exact .inl ⟨rfl, rfl⟩
  | answered => exact .inr ⟨rfl, _, _, rfl⟩

theorem turn_went {e : Engine} {k : Nat} {errand : Errand} (queued : e.queue[k]? = some errand) {v' : Validation}
    (found : (e.turn k).validations[errand.number]? = some v') (uncalled : v'.cancelled = false) :
    Went e k errand.number v' := by
  rcases e.turn_cases k with ⟨nothing, _⟩ | ⟨errand', e', queued', same, turned⟩
  · rw [queued] at nothing
    cases nothing
  · rw [queued, Option.some.injEq] at queued'
    subst queued'
    rw [same] at found
    cases turned with
    | idle => exact .rested found (Rests.of_silent (same ▸ ⟨rfl, [], by simp⟩))
    | forgotten _ _ _ => exact .rested found (Rests.of_silent (same ▸ ⟨rfl, [], by simp⟩))
    | calledOff known _ =>
      rcases modify_cases found with ⟨_, w, there, rfl⟩ | ⟨other, _⟩
      · rw [show w = _ from Option.some.inj (there.symm.trans known)] at uncalled
        cases uncalled
      · exact absurd rfl other
    | @worked _ d p p' shown settings known progress _ worked =>
      have document : v'.document = d := by
        rw [worked.validations] at found
        rcases modify_cases found with ⟨_, w, there, rfl⟩ | ⟨other, _⟩
        · rw [show w = _ from Option.some.inj (there.symm.trans known)]
        · exact absurd rfl other
      subst document same
      rcases progress.from_phase with ⟨starts, rfl⟩ | ⟨resumes, s, reply, rfl⟩
      · have starts : Starts e k errand.number v'.document := ⟨starts ▸ queued, known⟩
        rcases starts.ends with ends | ⟨s, reply, ending, begun, held, waits⟩
        · rw [Option.some.inj (found.symm.trans (ends.known starts.2))]
          exact .ended starts ends
        · rw [Option.some.inj (found.symm.trans (waits.known starts.2))]
          exact .waits starts ending begun held waits
      · have resumed : e.queue[k]? = some (.resume errand.number) := resumes ▸ queued
        have ends := resumed_ends resumed known
        rw [Option.some.inj (found.symm.trans (ends.known known))]
        exact .answered known rfl ends

/-! ## All turns of a validation -/

/-- The moves of a run that are turns of a validation, each with the engine that it comes to. -/
def turnsOf (n : Nat) : Engine → List Move → List (Engine × Move)
  | _, [] => []
  | e, m :: rest => (if e.author m = some n then [(e, m)] else []) ++ turnsOf n (e.after m) rest

theorem turnsOf_concat (n : Nat) (e : Engine) (moves : List Move) (m : Move) :
    e.turnsOf n (moves ++ [m]) =
      e.turnsOf n moves ++ if (e.run moves).author m = some n then [(e.run moves, m)] else [] := by
  induction moves generalizing e with
  | nil => exact List.append_nil _
  | cons first rest ih => rw [List.cons_append, turnsOf, ih, turnsOf, List.append_assoc, run_cons]

/-- The turns of a validation that nobody can see. -/
def AllRest (uri : String) (turns : List (Engine × Move)) : Prop :=
  ∀ t ∈ turns, Rests uri t.1 (t.1.after t.2)

/-- A validation has done its pass, which started in the engine `x`: one of its turns ends the pass
as it had to end there, and nobody can see the others. -/
def Passed (host : Host) (turns : List (Engine × Move)) (n : Nat) (d : Document) (x : Engine) : Prop :=
  ∃ before y m later, turns = before ++ (y, m) :: later ∧
    (∃ k, Starts x k n d ∧ (x, .turned k) ∈ before ++ [(y, m)]) ∧
    y.host = host ∧ Ends y (y.after m) n d (x.endingOf d) ∧ AllRest d.uri (before ++ later)

/-- Where a validation stands after its turns. -/
inductive Standing (host : Host) (turns : List (Engine × Move)) (n : Nat) (d : Document) : Phase → Prop where
  /-- Its pass has not started. -/
  | created (rest : AllRest d.uri turns) : Standing host turns n d .created
  /-- It waits for its compiler. -/
  | compiling {x : Engine} {k : Nat} {s : Settings} {reply : Reply} (rest : AllRest d.uri turns)
      (starts : Starts x k n d) (first : (x, .turned k) ∈ turns)
      (ending : x.endingOf d = .ofRun d s (Compiler.conclude s.command reply.output).2) :
      Standing host turns n d (.compiling s reply)
  /-- It has ended. -/
  | finished {x : Engine} (passed : Passed host turns n d x) :
      Standing host turns n d (.finished ((x.endingOf d).outcomeAt host d))

section

variable {host : Host} {turns : List (Engine × Move)} {n : Nat} {d : Document} {e : Engine} {m : Move}

theorem AllRest.concat {uri : String} (all : AllRest uri turns) (rests : Rests uri e (e.after m)) :
    AllRest uri (turns ++ [(e, m)]) := by
  intro t member
  rcases List.mem_append.mp member with old | new
  · exact all t old
  · rw [List.mem_singleton] at new
    subst new
    exact rests

theorem Passed.concat {x : Engine} (passed : Passed host turns n d x) (rests : Rests d.uri e (e.after m)) :
    Passed host (turns ++ [(e, m)]) n d x := by
  obtain ⟨before, y, m', later, rfl, starts, still, ends, all⟩ := passed
  refine ⟨before, y, m', later ++ [(e, m)], by simp, starts, still, ends, ?_⟩
  rw [← List.append_assoc]
  exact all.concat rests

theorem Standing.concat {p : Phase} (standing : Standing host turns n d p) (rests : Rests d.uri e (e.after m)) :
    Standing host (turns ++ [(e, m)]) n d p := by
  cases standing with
  | created rest => exact .created (rest.concat rests)
  | compiling rest starts first ending =>
    exact .compiling (rest.concat rests) starts (List.mem_append_left _ first) ending
  | finished passed => exact .finished (passed.concat rests)

/-- A turn that ends the pass. -/
theorem Standing.of_ends {x : Engine} {k : Nat} (rest : AllRest d.uri turns) (starts : Starts x k n d)
    (first : (x, .turned k) ∈ turns ++ [(e, m)]) (ends : Ends e (e.after m) n d (x.endingOf d)) :
    Standing e.host (turns ++ [(e, m)]) n d (.finished ((x.endingOf d).outcomeAt e.host d)) :=
  .finished ⟨turns, e, m, [], rfl, ⟨k, starts, first⟩, rfl, ends, by rwa [List.append_nil]⟩

/-- A validation stands after one more turn where that has brought it. -/
theorem Went.standing {k : Nat} {v' : Validation} (went : Went e k n v')
    (standing : ∀ v, e.validations[n]? = some v → v.cancelled = false →
      Standing e.host turns n v.document v.phase) (uncalled : v'.cancelled = false) :
    Standing e.host (turns ++ [(e, .turned k)]) n v'.document v'.phase := by
  cases went with
  | rested known rests => exact (standing v' known uncalled).concat (rests _)
  | waits starts ending _ _ waits =>
    cases standing _ starts.2 rfl with
    | created rest => exact .compiling (rest.concat waits.rests) starts (by simp) ending
  | ended starts ends =>
    cases standing _ starts.2 rfl with
    | created rest => exact .of_ends rest starts (by simp) ends
  | answered known same ends =>
    cases standing _ known rfl with
    | compiling rest starts first ending =>
      rw [same, ← ending] at ends ⊢
      exact .of_ends rest starts (List.mem_append_left _ first) ends

end

theorem author_eq_some {e : Engine} {m : Move} {n : Nat} (authored : e.author m = some n) :
    ∃ k errand, m = .turned k ∧ e.queue[k]? = some errand ∧ errand.number = n := by
  cases m with
  | turned k =>
    rw [author, Option.map_eq_some_iff] at authored
    obtain ⟨errand, queued, number⟩ := authored
    exact ⟨k, errand, rfl, queued, number⟩
  | _ => cases authored

/-- Turns of a validation that is not there yet. -/
theorem unborn_rest {e : Engine} (registered : Registered e) (moves : List Move) {n : Nat}
    (unborn : (e.run moves).validations[n]? = none) (uri : String) : AllRest uri (e.turnsOf n moves) := by
  induction moves using List.reverseRecOn with
  | nil => intro t member; cases member
  | append_singleton moves m ih =>
    have before : (e.run moves).validations[n]? = none := by
      cases known : (e.run moves).validations[n]? with
      | none => rfl
      | some v =>
        obtain ⟨w, born, _⟩ := (registered.run moves).keeps [m] n v known
        rw [← run_append, unborn] at born
        cases born
    rw [turnsOf_concat]
    split
    · rename_i authored
      obtain ⟨k, errand, rfl, queued, rfl⟩ := author_eq_some authored
      refine (ih before).concat (.of_silent (turn_idle fun errand' queued' => ?_).1 uri)
      rw [queued, Option.some.injEq] at queued'
      subst queued'
      intro v known
      rw [before] at known
      cases known
    · rw [List.append_nil]
      exact ih before

theorem standing {e : Engine} (registered : Registered e) (empty : e.validations = []) (moves : List Move) {n : Nat}
    {v : Validation} (known : (e.run moves).validations[n]? = some v) (uncalled : v.cancelled = false) :
    Standing e.host (e.turnsOf n moves) n v.document v.phase := by
  induction moves using List.reverseRecOn generalizing v with
  | nil =>
    rw [run_nil, empty] at known
    cases known
  | append_singleton moves m ih =>
    rw [run_concat] at known
    rw [turnsOf_concat]
    split
    · rename_i authored
      obtain ⟨k, errand, rfl, queued, rfl⟩ := author_eq_some authored
      have host : (e.run moves).host = e.host := (host_invariant e.host).run e moves rfl
      have went := turn_went queued known uncalled
      have stood := went.standing (fun w before calm => host.symm ▸ ih before calm) uncalled
      rwa [host] at stood
    · rename_i elsewhere
      rw [List.append_nil]
      rcases uncalled_elsewhere (registered.run moves) elsewhere known uncalled with before | ⟨unborn, created⟩
      · exact ih before uncalled
      · rw [created]
        exact .created (unborn_rest registered moves unborn _)

/-! ## Every pass can be ended -/

theorem compiling_ends {e : Engine} {n : Nat} {d : Document} {s : Settings} {reply : Reply}
    (known : e.validations[n]? = some ⟨d, .compiling s reply, false⟩) :
    ∃ later o, (e.run later).validations[n]? = some ⟨d, .finished o, false⟩ := by
  obtain ⟨k, queued⟩ := List.getElem?_of_mem (resume_mem_release known)
  have ends := resumed_ends (e := e.release n) queued known
  exact ⟨[.released n, .turned k], _, ends.known known⟩

theorem unended_ends {e : Engine} (announced : Announced e) {n : Nat} {v : Validation}
    (known : e.validations[n]? = some v) (undone : v.isDone = false) (uncalled : v.cancelled = false) :
    ∃ later o, (e.run later).validations[n]? = some ⟨v.document, .finished o, false⟩ := by
  obtain ⟨d, p, cancelled⟩ := v
  change cancelled = false at uncalled
  subst uncalled
  cases p with
  | created =>
    obtain ⟨k, queued⟩ := List.getElem?_of_mem (announced n _ known rfl)
    rcases Starts.ends ⟨queued, known⟩ with ends | ⟨s, reply, _, _, _, waits⟩
    · exact ⟨[.turned k], _, ends.known known⟩
    · obtain ⟨later, o, ended⟩ := compiling_ends (waits.known known)
      exact ⟨.turned k :: later, o, ended⟩
  | compiling s reply => exact compiling_ends known
  | finished o => cases undone

/-- In every run of an engine, a validation that has not been called off has not started, waits for its
compiler, or has ended, as the engine had it end in which its pass started; it has been seen in the one
turn that ended it, and only there. It can always go on to its end. An ending with a failure is none of
the compiler. What comes of an ending, and what the host is told of it, is as it has to be whenever the
host accepts the set. A report whose set it does not accept ends with the refusal; that a set is to be
cleared is told all the same, and the refusal after it, as one more failure. For an address made from
the path of a file, it is said exactly what the host accepts. -/
theorem validation_outcome {machine : Machine} {host : Host} {folder : Path} {workspace : Option String} {e : Engine}
    (created : create machine host folder workspace = .ok e) (moves : List Move) {n : Nat} {v : Validation}
    (known : (e.run moves).validations[n]? = some v) (uncalled : v.cancelled = false) :
    Standing host (e.turnsOf n moves) n v.document v.phase ∧
    (v.isDone = false → ∃ later o, (e.run (moves ++ later)).validations[n]? = some ⟨v.document, .finished o, false⟩) ∧
    (∀ x f, endingOf x v.document = .failed f → ∀ fault, f ≠ .engine (.invocation fault)) ∧
    (∀ ending : Ending, ending.refusal? host v.document = none →
      ending.outcomeAt host v.document = ending.outcome ∧
      ending.noticesAt host v.document = ending.notices v.document) ∧
    (∀ (ending : Ending) f, ending.refusal? host v.document = some f →
      ending.outcomeAt host v.document = ending.unaccepted f ∧
      ending.noticesAt host v.document = ending.notices v.document ++ ending.afterwards f) ∧
    ∀ path, Rooted path → ∀ ds, host.refusal? (Uri.ofPath path) ds = none ↔ host.Accepts path ds := by
  have registered := registered_create created
  have stands := standing registered (create_eq created).1 moves known uncalled
  rw [create_host created] at stands
  refine ⟨stands, fun undone => ?_, fun x f => endingOf_failed,
    fun ending accepted => ⟨Ending.outcomeAt_of_accepted accepted, Ending.noticesAt_of_accepted accepted⟩,
    fun ending f refused => ?_, fun path rooted ds => host.refusal?_eq_none_iff rooted ds⟩
  · obtain ⟨later, o, ended⟩ := unended_ends ((announced_create created).run moves) known undone uncalled
    exact ⟨later, o, by rwa [run_append]⟩
  · simp [Ending.outcomeAt, Ending.noticesAt, refused]

/-- A document is opened, and the output of its compiler is let through. -/
def openedAndReleased (d : Document) : List Move := [.opened d, .turned 0, .released 0, .turned 0]

/-- On a console, a validation waits for its compiler, and then shows what that has found. -/
theorem validation_outcome_console :
    ∃ e, create smallMachine (.console (.text {})) ⟨"/", ["home"]⟩ none = .ok e ∧
      Standing (.console (.text {})) (e.turnsOf 0 (openedAndReleased (smallDocument 0))) 0 (smallDocument 0)
        (.finished (.published smallSet)) := by
  have checked : (create smallMachine (.console (.text {})) ⟨"/", ["home"]⟩ none).toOption.any (fun e =>
      (e.run (openedAndReleased (smallDocument 0))).validations[0]? =
        some ⟨smallDocument 0, .finished (.published smallSet), false⟩) = true := by
    decide +kernel
  obtain ⟨e, created, holds⟩ := exists_ok_of_any checked
  exact ⟨e, created,
    (validation_outcome created (openedAndReleased (smallDocument 0)) (of_decide_eq_true holds) rfl).1⟩

/-- The source file of the small machine under an address that has no path. -/
def pathlessDocument : Document := { smallDocument 0 with uri := "file://[x" }

/-- On a console, the validation of a document under an address that has no path has none of the
endings. -/
theorem pathless_unended :
    ∃ e v, create smallMachine (.console (.text {})) ⟨"/", ["home"]⟩ none = .ok e ∧
      (e.run (openedAndReleased pathlessDocument)).validations[0]? = some v ∧ v.isDone = true ∧
      v.cancelled = false ∧ ∀ ending : Ending, v.phase ≠ .finished ending.outcome := by
  have checked : (create smallMachine (.console (.text {})) ⟨"/", ["home"]⟩ none).toOption.any (fun e =>
      (e.run (openedAndReleased pathlessDocument)).validations[0]? =
        some ⟨pathlessDocument, .finished (.refused (.value "Invalid IPv6 URL")), false⟩) = true := by
    decide +kernel
  obtain ⟨e, created, holds⟩ := exists_ok_of_any checked
  refine ⟨e, _, created, of_decide_eq_true holds, rfl, rfl, fun ending => ?_⟩
  cases ending <;> simp [Ending.outcome]

end Engine

end Diagnosis
