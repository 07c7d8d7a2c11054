import Diagnosis.CommandLine.Run
import Diagnosis.Proofs.Engine.Ending
import Diagnosis.Proofs.Engine.Reread

/-!
# Files that are opened together

The files that a command line names are read one after the other, each as if it were
alone. Those that can be read are open in the end: their validations wait for their
start with their settings at hand, and of all that have one address the last alone has
not been called off.
-/

namespace Diagnosis

namespace Engine

/-! ## One file by itself -/

/-- The pass over a file: the document that is read, and how the pass over that ends. -/
def passOver (e : Engine) (path : String) : Except Failure (Document × Ending) := do
  let s ← e.settingsNow path
  let d ← Document.read e.machine.tree e.machine.directory path s.encoding 0
  return (d, .ofRun d s (Compiler.run e.machine.toolchain s d.path e.workspace).2)

/-- The passes over those files that can be read. -/
def passes (e : Engine) (files : List String) : List (Document × Ending) :=
  files.filterMap fun path => (e.passOver path).toOption

/-- What becomes of a file that is to be opened. -/
def handleFile (e : Engine) (path : String) : Handling :=
  match e.readNow path 0 with
  | .ok d => .accepted d
  | .error (.engine f) => .reported f
  | .error f => .raised f

theorem handleFile_of_same {e e' : Engine} (machine : e'.machine = e.machine) (store : e'.store = e.store) :
    e'.handleFile = e.handleFile := by
  funext path
  unfold handleFile readNow settingsNow
  rw [machine, store]

theorem passOver_ok {e : Engine} {path : String} {d : Document} {ending : Ending}
    (passed : e.passOver path = .ok (d, ending)) :
    e.readNow path 0 = .ok d ∧ ∃ s, e.settingsNow path = .ok s ∧
      ending = .ofRun d s (Compiler.run e.machine.toolchain s d.path e.workspace).2 := by
  unfold passOver at passed
  unfold readNow
  cases found : e.settingsNow path with
  | error f => rw [found] at passed; cases passed
  | ok s =>
    rw [found] at passed
    dsimp only [bind, Except.bind] at passed ⊢
    cases read : Document.read e.machine.tree e.machine.directory path s.encoding 0 with
    | error f => rw [read] at passed; cases passed
    | ok d' => rw [read] at passed; cases passed; exact ⟨rfl, s, rfl, rfl⟩

theorem readNow_passOver (e : Engine) (path : String) : e.readNow path 0 = (e.passOver path).map Prod.fst := by
  unfold passOver readNow
  cases e.settingsNow path with
  | error f => rfl
  | ok s =>
    dsimp only [bind, Except.bind]
    cases Document.read e.machine.tree e.machine.directory path s.encoding 0 <;> rfl

/-- The files that are accepted are those that can be read. -/
theorem accepted_passes (e : Engine) (files : List String) :
    (files.map e.handleFile).filterMap Handling.accepted? = (e.passes files).map Prod.fst := by
  rw [passes, List.filterMap_map, List.map_filterMap]
  refine congrArg (List.filterMap · files) (funext fun path => ?_)
  rw [Function.comp_apply, handleFile, readNow_passOver]
  cases e.passOver path with
  | ok passed => rfl
  | error f => cases f <;> rfl

/-- A file that is read has the address of where its path leads. -/
theorem address_of_readNow {e : Engine} {path : String} {version : Int} {d : Document}
    (read : e.readNow path version = .ok d) :
    ∃ p, e.machine.tree.resolve e.machine.directory path = .ok p ∧ d.uri = Uri.ofPath p.text := by
  cases found : e.settingsNow path with
  | error f => rw [readNow, found] at read; cases read
  | ok s =>
    rw [readNow, found] at read
    change Document.read e.machine.tree e.machine.directory path s.encoding version = .ok d at read
    obtain ⟨p, text, resolved, rfl⟩ := read_eq_ok read
    exact ⟨p, resolved, rfl⟩

/-! ## Validations that wait for their start -/

/-- All validations wait for their start, with settings at hand; and of those that have one address,
the registry has one, which has not been called off. -/
structure Ready (e : Engine) : Prop where
  created : ∀ (n : Nat) (v : Validation), e.validations[n]? = some v → v.phase = .created
  provided : ∀ (n : Nat) (v : Validation), e.validations[n]? = some v →
    (e.session.settings.get? v.document.uri).isSome = true
  entered : ∀ (n : Nat) (v : Validation), e.validations[n]? = some v →
    (e.inflight.get? v.document.uri).isSome = true
  uncalled : ∀ uri n v, e.inflight.get? uri = some n → e.validations[n]? = some v → v.cancelled = false

theorem ready_create {machine : Machine} {host : Host} {folder : Path} {workspace : Option String} {e : Engine}
    (created : create machine host folder workspace = .ok e) : Ready e := by
  obtain ⟨validations, inflight, _⟩ := create_eq created
  constructor
  · intro n v known
    rw [validations] at known
    cases known
  · intro n v known
    rw [validations] at known
    cases known
  · intro n v known
    rw [validations] at known
    cases known
  · intro uri n v held
    rw [inflight] at held
    cases held

/-- More settings may be remembered. -/
theorem Ready.withSettings {e : Engine} (ready : Ready e) {settings : Keyed Settings}
    (kept : ∀ uri, (e.session.settings.get? uri).isSome = true → (settings.get? uri).isSome = true) :
    Ready (e.withSession { e.session with settings }) :=
  ⟨ready.created, fun n v known => kept _ (ready.provided n v known), ready.entered, ready.uncalled⟩

theorem Ready.emit {e : Engine} (ready : Ready e) (events : List Event) : Ready (e.emit events) :=
  ⟨ready.created, ready.provided, ready.entered, ready.uncalled⟩

/-- A document is opened that has its settings at hand. -/
theorem Ready.openDocument {e : Engine} (ready : Ready e) (registered : Registered e) {d : Document}
    (provided : (e.session.settings.get? d.uri).isSome = true) : Ready (e.openDocument d).1 := by
  obtain ⟨queue, events, _, opened⟩ := e.openDocument_eq d
  have last {n : Nat} {v : Validation} (found : (e.openDocument d).1.validations[n]? = some v) :=
    openDocument_cases found
  rw [opened] at last ⊢
  constructor
  · intro n v' found
    rcases last found with old | ⟨_, rfl⟩
    · obtain ⟨v, known, _, phase, _⟩ := calledOffAt_cases old
      exact phase.trans (ready.created n v known)
    · rfl
  · intro n v' found
    rcases last found with old | ⟨_, rfl⟩
    · obtain ⟨v, known, document, _⟩ := calledOffAt_cases old
      rw [document]
      exact ready.provided n v known
    · exact provided
  · intro n v' found
    by_cases same : v'.document.uri = d.uri
    · rw [same, Keyed.get?_put_self]
      rfl
    · rw [Keyed.get?_put_of_ne same]
      rcases last found with old | ⟨_, rfl⟩
      · obtain ⟨v, known, document, _⟩ := calledOffAt_cases old
        rw [document]
        exact ready.entered n v known
      · exact absurd rfl same
  · intro uri n v' held found
    by_cases same : uri = d.uri
    · subst same
      rw [Keyed.get?_put_self, Option.some.injEq] at held
      rcases last found with old | ⟨_, rfl⟩
      · have inside := (List.getElem?_eq_some_iff.mp old).1
        rw [calledOffAt_length] at inside
        omega
      · rfl
    · rw [Keyed.get?_put_of_ne same] at held
      obtain ⟨w, there, address⟩ := registered.entry uri n held
      have unlike : e.inflight.get? d.uri ≠ some n := by
        intro other
        obtain ⟨w', there', address'⟩ := registered.entry d.uri n other
        rw [there, Option.some.injEq] at there'
        subst there'
        exact same (address.symm.trans address')
      rcases last found with old | ⟨rfl, _⟩
      · obtain ⟨v, known, _, _, _, kept⟩ := calledOffAt_cases old
        rw [kept unlike]
        exact ready.uncalled uri n v held known
      · have inside := (List.getElem?_eq_some_iff.mp there).1
        omega

/-- Reading a file loses no settings, and those of a file that is read are at hand. -/
theorem load_provides {e : Engine} (coherent : Coherent e) (path : String) (version : Int) :
    ∃ settings : Keyed Settings,
      e.load path version = (e.withSession { e.session with settings }, e.readNow path version) ∧
      Coherent (e.withSession { e.session with settings }) ∧
      (∀ uri, (e.session.settings.get? uri).isSome = true → (settings.get? uri).isSome = true) ∧
      ∀ d, e.readNow path version = .ok d → (settings.get? d.uri).isSome = true := by
  obtain ⟨settings, loaded, still⟩ := load_coherent coherent path version
  refine ⟨settings, loaded, still, ?_⟩
  have same : (e.load path version).1.session.settings = settings := by rw [loaded]; rfl
  cases resolved : e.machine.tree.resolve e.machine.directory path with
  | error f =>
    have nothing : e.load path version = (e, .error f) := by rw [load, resolved]
    rw [nothing] at same
    subst same
    refine ⟨fun _ kept => kept, fun d read => ?_⟩
    obtain ⟨p, somewhere, _⟩ := address_of_readNow read
    rw [resolved] at somewhere
    cases somewhere
  | ok p =>
    have looked : (e.settingsFor (Uri.ofPath p.text) path).1.session.settings = settings := by
      rw [← same, load, resolved]
      dsimp only
      cases (e.settingsFor (Uri.ofPath p.text) path) with
      | mk e' r => cases r <;> rfl
    have address {d : Document} (read : e.readNow path version = .ok d) : d.uri = Uri.ofPath p.text := by
      obtain ⟨p', somewhere, uri⟩ := address_of_readNow read
      rw [resolved] at somewhere
      cases somewhere
      exact uri
    rcases e.settingsFor_cases (Uri.ofPath p.text) path with ⟨s, kept, found⟩ | ⟨f, failed, found⟩ | ⟨s, _, found⟩
    · rw [found] at looked
      subst looked
      refine ⟨fun _ kept => kept, fun d read => ?_⟩
      rw [address read, kept]
      rfl
    · rw [found] at looked
      subst looked
      refine ⟨fun _ kept => kept, fun d read => ?_⟩
      rw [readNow, failed] at read
      cases read
    · rw [found] at looked
      subst looked
      refine ⟨fun uri kept => ?_, fun d read => ?_⟩
      · by_cases here : uri = Uri.ofPath p.text
        · subst here
          exact Option.isSome_of_eq_some (Keyed.get?_put_self ..)
        · exact (congrArg Option.isSome (Keyed.get?_put_of_ne here ..)).trans kept
      · rw [address read]
        exact Option.isSome_of_eq_some (Keyed.get?_put_self ..)

end Engine

/-! ## All files of a command line -/

namespace CommandLine

open Engine

/-- Files are opened one after the other, each as if it were alone, up to the first failure that is
none of the engine's. -/
structure OpensEach (e : Engine) (files : List String) : Prop where
  raises : ∀ f, (files.map e.handleFile).findSome? Handling.raised? = some f → (openFiles e files).2 = .error f
  reread : (files.map e.handleFile).findSome? Handling.raised? = none →
    Reread e (files.map e.handleFile) (openFiles e files).1 (openFiles e files).2
  ready : (files.map e.handleFile).findSome? Handling.raised? = none → Ready (openFiles e files).1

theorem openFiles_accepted {e x : Engine} {path : String} {d : Document} (loaded : e.load path 0 = (x, .ok d))
    (rest : List String) : openFiles e (path :: rest) =
      ((openFiles (x.openDocument d).1 rest).1,
        (openFiles (x.openDocument d).1 rest).2.map ([(x.openDocument d).2] ++ ·)) := by
  rw [openFiles, loaded]
  dsimp only
  cases openFiles (x.openDocument d).1 rest with
  | mk e' r => cases r <;> rfl

theorem openFiles_reported {e x : Engine} {path : String} {f : EngineError}
    (loaded : e.load path 0 = (x, .error (.engine f))) (rest : List String) : openFiles e (path :: rest) =
      ((openFiles (x.emit [.notice (.error f.notification)]) rest).1,
        (openFiles (x.emit [.notice (.error f.notification)]) rest).2.map ([] ++ ·)) := by
  rw [openFiles, loaded]
  change openFiles (x.emit [.notice (.error f.notification)]) rest = _
  cases openFiles (x.emit [.notice (.error f.notification)]) rest with
  | mk e' r => cases r <;> rfl

/-- A failure that is none of the engine's goes out. -/
theorem OpensEach.stop {e x : Engine} {path : String} {f : Failure} {rest : List String}
    (admitted : e.handleFile path = .raised f) (stops : openFiles e (path :: rest) = (x, .error f)) :
    OpensEach e (path :: rest) := by
  have raised : ((path :: rest).map e.handleFile).findSome? Handling.raised? = some f := by
    rw [List.map_cons, List.findSome?_cons, admitted]
    rfl
  refine ⟨fun g other => ?_, fun none => ?_, fun none => ?_⟩
  · rw [raised, Option.some.injEq] at other
    rw [stops, other]
  · rw [raised] at none
    cases none
  · rw [raised] at none
    cases none

/-- After a file that is opened or told of, the others are opened as if they were alone. -/
theorem OpensEach.cons {e x : Engine} {path : String} {rest : List String} {ns : List Nat}
    (first : Reread e [e.handleFile path] x (.ok ns)) (unraised : (e.handleFile path).raised? = none)
    (goesOn : openFiles e (path :: rest) = ((openFiles x rest).1, (openFiles x rest).2.map (ns ++ ·)))
    (others : OpensEach x rest) : OpensEach e (path :: rest) := by
  have alike : x.handleFile = e.handleFile := handleFile_of_same first.machine first.store
  have later : ((path :: rest).map e.handleFile).findSome? Handling.raised? =
      (rest.map x.handleFile).findSome? Handling.raised? := by
    rw [List.map_cons, List.findSome?_cons, unraised, alike]
  refine ⟨fun f raised => ?_, fun none => ?_, fun none => ?_⟩ <;> rw [goesOn]
  · rw [others.raises f (later ▸ raised)]
    rfl
  · have second := others.reread (later ▸ none)
    rw [alike] at second
    obtain ⟨_, same, both⟩ := first.cons unraised second
    cases same
    exact both
  · exact others.ready (later ▸ none)

theorem opensEach {e : Engine} (coherent : Coherent e) (registered : Registered e) (ready : Ready e)
    (files : List String) : OpensEach e files := by
  induction files generalizing e with
  | nil =>
    refine ⟨fun f raised => (nomatch raised), fun _ => ⟨rfl, rfl, coherent, registered, rfl, ?_,
      fun _ _ known _ => known, ⟨[], ?_, rfl⟩, rfl⟩, fun _ => ready⟩
    · simp [openFiles]
    · simp [openFiles]
  | cons path rest ih =>
    obtain ⟨settings, loaded, still, kept, provided⟩ := load_provides coherent path 0
    have readied := ready.withSettings kept
    cases read : e.readNow path 0 with
    | ok d =>
      rw [read] at loaded
      have admitted : e.handleFile path = .accepted d := by rw [handleFile, read]
      have first := openDocument_reread still registered d [] rfl
      rw [emit_nil, ← admitted] at first
      have opened := readied.openDocument (registered.of_same rfl rfl) (provided d read)
      exact .cons first (by rw [admitted]; rfl) (openFiles_accepted loaded rest)
        (ih first.coherent first.registered opened)
    | error f =>
      rw [read] at loaded
      cases f with
      | engine f =>
        have admitted : e.handleFile path = .reported f := by rw [handleFile, read]
        have first : Reread e [.reported f] _ (.ok []) :=
          emit_reread still registered rfl [.notice (.error f.notification)] rfl
        rw [← admitted] at first
        exact .cons first (by rw [admitted]; rfl) (openFiles_reported loaded rest)
          (ih first.coherent first.registered (readied.emit _))
      | _ => exact .stop (by rw [handleFile, read]) (by rw [openFiles, loaded])

/-- What reading, telling and opening keep, opening all files keeps. -/
theorem stable_openFiles {P : Engine → Prop} (stable : Stable P) (e : Engine) (files : List String) (holds : P e) :
    P (openFiles e files).1 := by
  induction files generalizing e with
  | nil => exact holds
  | cons path rest ih =>
    have loaded := stable.load e path 0 holds
    unfold openFiles
    split <;> rename_i found <;> rw [found] at loaded
    · exact ih _ (stable.speaks _ _ rfl loaded)
    · exact loaded
    · rename_i e' d
      have others := ih _ (stable.opens e' d loaded)
      dsimp only
      split <;> rename_i went <;> rw [went] at others <;> exact others

end CommandLine

end Diagnosis
