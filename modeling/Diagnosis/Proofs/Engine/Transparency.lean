import Diagnosis.Proofs.Engine.Forgetful
import Diagnosis.Proofs.Engine.Frame
import Diagnosis.Proofs.Engine.Isolation
import Diagnosis.Proofs.FileTree.Contents
import Diagnosis.Proofs.Settings.Watched

/-!
# Remembering settings is not seen

An engine is compared with one that finds settings anew each time. Both do the same in
every run in which what is remembered is given up whenever it may have become untrue:
all settings that are remembered are then those in force for the path of their address.
-/

namespace Diagnosis

/-- A document is known by the address of its own path. -/
def Document.Located (d : Document) : Prop := d.uri = Uri.ofPath d.path

/-- Where a path leads, the path it leads to leads as well. -/
def Machine.Settles (m : Machine) (path : String) : Prop :=
  ∀ p, m.tree.resolve m.directory path = .ok p → m.tree.resolve m.directory p.text = .ok p

/-- Nothing becomes another but compilers, what source files hold, and which of these there are. -/
structure Machine.SourcesChange (m m' : Machine) : Prop where
  directory : m'.directory = m.directory
  shape : m.tree.SameShape m'.tree
  folders : ∀ q : Path, q.Plain → (m'.tree.read m.directory (Settings.Store.folderFile q)).toOption =
    (m.tree.read m.directory (Settings.Store.folderFile q)).toOption

namespace Engine

/-! ## Finding settings anew -/

/-- Revalidates documents one after the other, and finds the settings of each anew. -/
def revalidateAllAnew (e : Engine) : List Document → Engine × Except Failure (List Nat)
  | [] => (e, .ok [])
  | d :: rest =>
    match e.forgetful.revalidate d with
    | (e, .error f) => (e, .error f)
    | (e, .ok ns) =>
      match e.revalidateAllAnew rest with
      | (e, .error f) => (e, .error f)
      | (e, .ok ms) => (e, .ok (ns ++ ms))

/-- Reads the settings of the user anew, and revalidates every open document in this way. -/
def configurationChangedAnew (e : Engine) : Engine × Except Failure (List Nat) :=
  match e.reload with
  | (e, some f) => (e, .error f)
  | (e, none) => e.revalidateAllAnew (e.session.documents.map Prod.snd)

/-- Takes so many steps, and finds settings anew in each. -/
def stepsAnew : Nat → Engine → Engine
  | 0, e => e
  | n + 1, e => stepsAnew n e.forgetful.step

/-- Calls off all validations and takes the steps until they have ended in this way. -/
def shutdownAnew (e : Engine) : Engine :=
  let e := (e.inflight.map Prod.snd).foldl cancel e
  { stepsAnew (2 * e.queue.length) e with inflight := [] }

/-- An engine after a move in which all settings are found anew. -/
def afterAnew (e : Engine) : Move → Engine
  | .configured => e.forgetful.configurationChangedAnew.1
  | .shut => e.forgetful.shutdownAnew
  | m => e.forgetful.after m

/-- An engine after moves in which all settings are found anew. -/
def runAnew (e : Engine) (moves : List Move) : Engine := moves.foldl afterAnew e

/-- What a move gives to whoever makes it. -/
inductive Answer where
  | nothing
  /-- The number of a validation. -/
  | scheduled (n : Nat)
  /-- Why the host did not accept the empty set, if it did not. -/
  | closed (refusal : Option Failure)
  /-- The numbers of the new validations. -/
  | revalidated (r : Except Failure (List Nat))
  | read (r : Except Failure Document)
  | found (r : Except Failure Settings)

/-- What an engine gives for a move. -/
def answer (e : Engine) : Move → Answer
  | .opened d => .scheduled (e.openDocument d).2
  | .closed uri => .closed (e.closeDocument uri).2
  | .configured => .revalidated e.configurationChanged.2
  | .loaded path version => .read (e.load path version).2
  | .consulted d => .found (e.settingsFor d.uri d.path).2
  | _ => .nothing

/-- What an engine gives for a move in which all settings are found anew. -/
def answerAnew (e : Engine) : Move → Answer
  | .configured => .revalidated e.forgetful.configurationChangedAnew.2
  | m => e.forgetful.answer m

/-- What an engine gives for moves. -/
def answers (e : Engine) : List Move → List Answer
  | [] => []
  | m :: rest => e.answer m :: answers (e.after m) rest

/-- What an engine gives for moves in which all settings are found anew. -/
def answersAnew (e : Engine) : List Move → List Answer
  | [] => []
  | m :: rest => e.answerAnew m :: answersAnew (e.afterAnew m) rest

theorem runAnew_cons (e : Engine) (m : Move) (rest : List Move) :
    e.runAnew (m :: rest) = (e.afterAnew m).runAnew rest := rfl

/-! ## What is remembered is in force -/

/-- All settings that are remembered are those in force for the path of their address. -/
def Faithful (e : Engine) : Prop :=
  ∀ path s, e.session.settings.get? (Uri.ofPath path) = some s → e.settingsNow path = .ok s

/-- Every document that an engine has is known by the address of its own path. -/
structure Located (e : Engine) : Prop where
  validated : ∀ d ∈ e.validations.map (·.document), d.Located
  opened : ∀ d ∈ e.openDocuments, d.Located

variable {e e' : Engine}

theorem faithful_forgetful (e : Engine) : e.forgetful.Faithful := by
  rintro path s ⟨⟩

theorem Faithful.of_same (faithful : e.Faithful) (settings : e'.session.settings = e.session.settings)
    (machine : e'.machine = e.machine) (store : e'.store = e.store) : e'.Faithful := by
  intro path s kept
  rw [settings] at kept
  rw [settingsNow, machine, store]
  exact faithful path s kept

/-- Settings that are in force for a path may be remembered for its address. -/
theorem Faithful.remember (faithful : e.Faithful) {path : String} {s : Settings} (now : e.settingsNow path = .ok s) :
    (e.remembering (e.session.settings.put (Uri.ofPath path) s)).Faithful := by
  intro other s' kept
  by_cases here : Uri.ofPath other = Uri.ofPath path
  · have value : some s = some s' := by
      rw [here] at kept
      exact (Keyed.get?_put_self ..).symm.trans kept
    cases value
    rw [Uri.ofPath_injective here]
    exact now
  · exact faithful other s' ((Keyed.get?_put_of_ne here ..).symm.trans kept)

/-- The settings of a document are found as if none were remembered. -/
theorem settingsFor_faithful (faithful : e.Faithful) {d : Document} (located : d.Located) :
    ∃ settings, e.settingsFor d.uri d.path = (e.remembering settings, e.settingsNow d.path) ∧
      (e.remembering settings).Faithful := by
  rcases e.settingsFor_cases d.uri d.path with ⟨s, kept, same⟩ | ⟨f, now, same⟩ | ⟨s, now, same⟩
  · rw [located] at kept
    rw [same, faithful d.path s kept]
    exact ⟨e.session.settings, rfl, faithful⟩
  · rw [same, now]
    exact ⟨e.session.settings, rfl, faithful⟩
  · rw [same, now, located]
    exact ⟨_, rfl, faithful.remember now⟩

/-- A file whose path settles is read as if no settings were remembered. -/
theorem load_faithful (faithful : e.Faithful) {path : String} (settles : e.machine.Settles path) (version : Int) :
    ∃ settings, e.load path version = (e.remembering settings, e.readNow path version) ∧
      (e.remembering settings).Faithful := by
  unfold load readNow
  cases resolved : e.machine.tree.resolve e.machine.directory path with
  | error f => exact ⟨e.session.settings, by rw [settingsNow_unresolved resolved]; rfl, faithful⟩
  | ok p =>
    have itself : e.settingsNow p.text = e.settingsNow path :=
      settingsNow_congr ((settles p resolved).trans resolved.symm)
    dsimp only
    rcases e.settingsFor_cases (Uri.ofPath p.text) path with ⟨s, kept, same⟩ | ⟨f, now, same⟩ | ⟨s, now, same⟩
    · rw [same, ← itself, faithful p.text s kept]
      exact ⟨e.session.settings, rfl, faithful⟩
    · rw [same, now]
      exact ⟨e.session.settings, rfl, faithful⟩
    · rw [same, now]
      exact ⟨_, rfl, faithful.remember (itself.trans now)⟩

/-- A document that has been read is known by the address of its own path. -/
theorem read_located {t : FileTree} {directory : List String} {path encoding : String} {version : Int} {d : Document}
    (given : Document.read t directory path encoding version = .ok d) : d.Located := by
  obtain ⟨p, text, _, rfl⟩ := read_eq_ok given
  rfl

theorem load_located {path : String} {version : Int} {d : Document} (given : (e.load path version).2 = .ok d) :
    d.Located := by
  unfold load at given
  split at given
  · cases given
  · split at given
    · cases given
    · exact read_located given

theorem readNow_located {path : String} {version : Int} {d : Document} (given : e.readNow path version = .ok d) :
    d.Located := by
  unfold readNow at given
  cases now : e.settingsNow path with
  | error f =>
    rw [now] at given
    cases given
  | ok s =>
    rw [now] at given
    exact read_located given

theorem Located.of_same (located : e.Located)
    (validations : e'.validations.map (·.document) = e.validations.map (·.document))
    (documents : e'.session.documents = e.session.documents) : e'.Located where
  validated := by rw [validations]; exact located.validated
  opened := by rw [openDocuments, documents]; exact located.opened

theorem Located.openDocument (located : e.Located) {d : Document} (here : d.Located) : (e.openDocument d).1.Located := by
  obtain ⟨queue, events, _, opened⟩ := e.openDocument_eq d
  rw [opened]
  constructor
  · intro d' member
    dsimp only at member
    rw [List.map_append, calledOffAt_documents, List.mem_append] at member
    rcases member with old | new
    · exact located.validated d' old
    · cases List.mem_singleton.mp new
      exact here
  · intro d' member
    obtain ⟨entry, inside, rfl⟩ := List.mem_map.mp member
    rcases Keyed.mem_put inside with rfl | old
    · exact here
    · exact located.opened _ (List.mem_map_of_mem old)

theorem Located.closeDocument (located : e.Located) (uri : String) : (e.closeDocument uri).1.Located := by
  obtain ⟨queue, closed⟩ := e.closeDocument_eq uri
  rw [closed]
  constructor
  · dsimp only
    rw [calledOffAt_documents]
    exact located.validated
  · intro d member
    obtain ⟨entry, inside, rfl⟩ := List.mem_map.mp member
    exact located.opened _ (List.mem_map_of_mem (List.mem_filter.mp inside).1)

/-! ## Turns -/

theorem turn_faithful (faithful : e.Faithful) (located : e.Located) (k : Nat) : (e.turn k).Faithful := by
  rcases e.turn_cases k with ⟨_, same⟩ | ⟨errand, e', _, same, turned⟩
  · rw [same]
    exact faithful
  · rw [same]
    cases turned with
    | idle => exact faithful
    | forgotten _ _ _ => exact faithful
    | calledOff _ _ => exact faithful
    | worked known _ found worked =>
      have still : ({ e with queue := e.queue.eraseIdx k } : Engine).Faithful := faithful
      rcases found with rfl | ⟨s, now, rfl⟩
      · exact still.of_same worked.settings worked.machine worked.store
      · have here := located.validated _ (List.mem_map_of_mem (List.mem_of_getElem? known))
        have grown := still.remember now
        rw [← here] at grown
        exact grown.of_same worked.settings worked.machine worked.store

/-- A validation goes on with what has been found for its settings. -/
def proceed (e : Engine) (n : Nat) (d : Document) : Except Failure Settings → Engine
  | .error f => e.fail n d f
  | .ok s => e.compile n d s

theorem proceed_remembering (e : Engine) (settings : Keyed Settings) (n : Nat) (d : Document)
    (found : Except Failure Settings) :
    (e.remembering settings).proceed n d found = (e.proceed n d found).remembering settings := by
  cases found with
  | error f => exact fail_remembering ..
  | ok s => exact compile_remembering ..

/-- A validation starts with the settings in force, whatever settings are remembered. -/
theorem start_faithful (faithful : e.Faithful) (located : e.Located) {n : Nat} {d : Document}
    (known : e.validations[n]? = some ⟨d, .created, false⟩) :
    ∃ settings, e.start n =
      ((e.log .info ("Validating " ++ d.path ++ " (version " ++ Text.decimalInt d.version ++ ")")).proceed n d
        (e.settingsNow d.path)).remembering settings := by
  have here : d.Located := located.validated _ (List.mem_map_of_mem (List.mem_of_getElem? known))
  have logged : (e.log .info ("Validating " ++ d.path ++ " (version " ++ Text.decimalInt d.version ++ ")")).Faithful :=
    faithful
  obtain ⟨settings, found, _⟩ := settingsFor_faithful logged here
  have now : (e.log .info ("Validating " ++ d.path ++ " (version " ++ Text.decimalInt d.version ++ ")")).settingsNow
    d.path = e.settingsNow d.path := rfl
  refine ⟨settings, ?_⟩
  rw [← proceed_remembering, start, known]
  simp only [Bool.false_eq_true, ↓reduceIte]
  rw [found, now]
  cases e.settingsNow d.path <;> rfl

theorem start_anew (faithful : e.Faithful) (located : e.Located) (n : Nat) :
    (e.start n).forgetful = (e.forgetful.start n).forgetful := by
  by_cases fresh : ∃ d, e.validations[n]? = some ⟨d, .created, false⟩
  · obtain ⟨d, known⟩ := fresh
    obtain ⟨settings, started⟩ := start_faithful faithful located known
    have still : e.forgetful.Located := located.of_same rfl rfl
    obtain ⟨others, startedToo⟩ := start_faithful e.faithful_forgetful still (n := n) known
    rw [started, startedToo, forgetful_remembering, forgetful_remembering]
    exact forgetful_eq (proceed_remembering (e.log .info _) [] n d (e.settingsNow d.path))
  · -- no settings are looked for
    have commutes : e.forgetful.start n = (e.start n).forgetful := by
      unfold start
      rw [forgetful, remembering_validations]
      split
      · rename_i d cancelled known
        cases cancelled with
        | true => rfl
        | false => exact absurd ⟨d, known⟩ fresh
      · rfl
    rw [commutes]
    rfl

theorem turn_anew (faithful : e.Faithful) (located : e.Located) (k : Nat) :
    (e.turn k).forgetful = (e.forgetful.turn k).forgetful := by
  unfold turn
  rw [show e.forgetful.queue = e.queue from rfl]
  cases e.queue[k]? with
  | none => rfl
  | some errand =>
    have still : ({ e with queue := e.queue.eraseIdx k } : Engine).Faithful := faithful
    dsimp only
    cases errand with
    | start n => exact start_anew still (located.of_same rfl rfl) n
    | resume n => exact forgetful_eq (resume_remembering { e with queue := e.queue.eraseIdx k } [] n)
    | forget n => exact forgetful_eq (forget_remembering { e with queue := e.queue.eraseIdx k } [] n)

theorem steps_anew (count : Nat) (faithful : e.Faithful) (located : e.Located) (alike : e'.forgetful = e.forgetful) :
    (e.steps count).forgetful = (stepsAnew count e').forgetful := by
  induction count generalizing e e' with
  | zero => exact alike.symm
  | succ count ih =>
    have frame := e.turn_framed 0
    have stepped : (e.turn 0).forgetful = e'.forgetful.step.forgetful := by
      rw [alike, step_eq_turn]
      exact turn_anew faithful located 0
    rw [steps, stepsAnew, step_eq_turn e]
    exact ih (turn_faithful faithful located 0) (located.of_same frame.validations frame.documents) stepped.symm

theorem foldl_cancel_remembering (ns : List Nat) (e : Engine) (settings : Keyed Settings) :
    ns.foldl cancel (e.remembering settings) = (ns.foldl cancel e).remembering settings := by
  induction ns generalizing e with
  | nil => rfl
  | cons n rest ih => rw [List.foldl_cons, List.foldl_cons, cancel_remembering, ih]

theorem steps_faithful (count : Nat) (faithful : e.Faithful) (located : e.Located) : (e.steps count).Faithful := by
  induction count generalizing e with
  | zero => exact faithful
  | succ count ih =>
    have frame := e.turn_framed 0
    rw [steps, step_eq_turn]
    exact ih (turn_faithful faithful located 0) (located.of_same frame.validations frame.documents)

theorem shutdown_faithful (faithful : e.Faithful) (located : e.Located) : e.shutdown.Faithful := by
  obtain ⟨called, session⟩ := foldl_cancel_framed (e.inflight.map Prod.snd) e
  have still := faithful.of_same (congrArg Session.settings session) called.machine called.store
  exact steps_faithful _ still (located.of_same called.validations called.documents)

theorem shutdown_anew (faithful : e.Faithful) (located : e.Located) :
    e.shutdown.forgetful = e.forgetful.shutdownAnew.forgetful := by
  obtain ⟨called, session⟩ := foldl_cancel_framed (e.inflight.map Prod.snd) e
  have still := faithful.of_same (congrArg Session.settings session) called.machine called.store
  have calledToo : (e.forgetful.inflight.map Prod.snd).foldl cancel e.forgetful =
      ((e.inflight.map Prod.snd).foldl cancel e).forgetful := foldl_cancel_remembering ..
  have stepped := steps_anew (2 * ((e.inflight.map Prod.snd).foldl cancel e).queue.length) still
    (located.of_same called.validations called.documents)
    (forgetful_remembering ((e.inflight.map Prod.snd).foldl cancel e) [])
  unfold shutdown shutdownAnew settle
  rw [calledToo]
  exact congrArg (fun x : Engine => { x with inflight := [] }) stepped

/-! ## Documents that are read anew -/

/-- What reading a document anew leads to. -/
def takeUp (e : Engine) (d : Document) : Except Failure Document → Engine × Except Failure (List Nat)
  | .ok d' => revalidate.accept e d'
  | .error (.engine f) => (e.report f, .ok [])
  | .error (.system f) =>
    revalidate.accept (e.log .warning ("Cannot re-read " ++ d.path ++ ", validating the last snapshot: " ++ f.message)) d
  | .error f => (e, .error f)

theorem revalidate_eq (e : Engine) (d : Document) :
    e.revalidate d = (e.load d.path d.version).1.takeUp d (e.load d.path d.version).2 := by
  unfold revalidate takeUp
  obtain ⟨x, r⟩ := e.load d.path d.version
  dsimp only
  rcases r with f | d'
  · cases f <;> rfl
  · rfl

theorem takeUp_remembering (e : Engine) (settings : Keyed Settings) (d : Document) (r : Except Failure Document) :
    (e.remembering settings).takeUp d r = ((e.takeUp d r).1.remembering settings, (e.takeUp d r).2) := by
  rcases r with f | d'
  · cases f with
    | system f => exact accept_remembering (e.log .warning _) settings d
    | _ => rfl
  · exact accept_remembering ..

/-- Taking up what was read opens a document with its own address, or none. -/
theorem takeUp_cases (e : Engine) {d : Document} {r : Except Failure Document} (here : d.Located)
    (given : ∀ d', r = .ok d' → d'.Located) :
    ∃ events, (e.takeUp d r).1 = e.emit events ∨
      ∃ d', d'.Located ∧ (e.takeUp d r).1 = ((e.emit events).openDocument d').1 := by
  rcases r with f | d'
  · cases f with
    | engine f => exact ⟨_, .inl (emit_emit ..)⟩
    | system f => exact ⟨_, .inr ⟨d, here, rfl⟩⟩
    | _ => exact ⟨[], .inl (emit_nil e).symm⟩
  · exact ⟨[], .inr ⟨d', given d' rfl, by rw [emit_nil]; rfl⟩⟩

theorem takeUp_trusted (located : e.Located) {settings : Keyed Settings} (still : (e.remembering settings).Faithful)
    {d : Document} {r : Except Failure Document} (here : d.Located) (given : ∀ d', r = .ok d' → d'.Located) :
    ((e.takeUp d r).1.remembering settings).Faithful ∧ (e.takeUp d r).1.Located ∧
      (e.takeUp d r).1.machine = e.machine := by
  obtain ⟨events, spoke | ⟨d', at_home, opens⟩⟩ := e.takeUp_cases here given
  · rw [spoke]
    exact ⟨still, located.of_same rfl rfl, rfl⟩
  · have before : (e.emit events).Located := located.of_same rfl rfl
    rw [opens]
    refine ⟨?_, before.openDocument at_home, ?_⟩
    · obtain ⟨queue, more, _, opened⟩ := (e.emit events).openDocument_eq d'
      rw [opened]
      exact still
    · obtain ⟨queue, more, _, opened⟩ := (e.emit events).openDocument_eq d'
      rw [opened]
      rfl

/-- Documents are read anew one after the other as if no settings were remembered. -/
theorem revalidateAll_anew {ds : List Document} (faithful : e.Faithful) (located : e.Located)
    (alike : e'.forgetful = e.forgetful) (here : ∀ d ∈ ds, d.Located) (settle : ∀ d ∈ ds, e.machine.Settles d.path) :
    (e.revalidateAll ds).1.forgetful = (e'.revalidateAllAnew ds).1.forgetful ∧
    (e.revalidateAll ds).2 = (e'.revalidateAllAnew ds).2 ∧
    (e.revalidateAll ds).1.Faithful ∧ (e.revalidateAll ds).1.Located := by
  induction ds generalizing e e' with
  | nil => exact ⟨alike.symm, rfl, faithful, located⟩
  | cons d rest ih =>
    have settles := settle d List.mem_cons_self
    obtain ⟨settings, loaded, still⟩ := load_faithful faithful settles d.version
    obtain ⟨others, loadedToo, _⟩ := load_faithful (e := e.forgetful) e.faithful_forgetful settles d.version
    have first : e.revalidate d = ((e.takeUp d (e.readNow d.path d.version)).1.remembering settings,
        (e.takeUp d (e.readNow d.path d.version)).2) := by
      rw [revalidate_eq, loaded]
      exact takeUp_remembering ..
    have firstToo : e'.forgetful.revalidate d = ((e.takeUp d (e.readNow d.path d.version)).1.remembering others,
        (e.takeUp d (e.readNow d.path d.version)).2) := by
      rw [alike, revalidate_eq, loadedToo]
      exact takeUp_remembering e others d (e.readNow d.path d.version)
    obtain ⟨trusted, at_home, machine⟩ := takeUp_trusted located still (here d List.mem_cons_self)
      fun d' given => readNow_located given
    have homes : ((e.takeUp d (e.readNow d.path d.version)).1.remembering settings).Located := at_home.of_same rfl rfl
    rw [revalidateAll, revalidateAllAnew, first, firstToo]
    generalize (e.takeUp d (e.readNow d.path d.version)).2 = r
    cases r with
    | error f => exact ⟨rfl, rfl, trusted, homes⟩
    | ok ns =>
      have remembered : ((e.takeUp d (e.readNow d.path d.version)).1.remembering others).forgetful =
          ((e.takeUp d (e.readNow d.path d.version)).1.remembering settings).forgetful := rfl
      obtain ⟨same, returned, faithfully, locatedly⟩ := ih trusted homes remembered
        (fun d' later => here d' (List.mem_cons_of_mem _ later))
        (fun d' later => by
          rw [remembering_machine, machine]
          exact settle d' (List.mem_cons_of_mem _ later))
      dsimp only
      generalize Engine.revalidateAll _ rest = went at same returned faithfully locatedly ⊢
      generalize Engine.revalidateAllAnew _ rest = wentAnew at same returned ⊢
      obtain ⟨x, r⟩ := went
      obtain ⟨y, r'⟩ := wentAnew
      cases returned
      cases r with
      | error f => exact ⟨same, rfl, faithfully, locatedly⟩
      | ok ms => exact ⟨same, rfl, faithfully, locatedly⟩

/-- A change of the configuration gives up all settings that are remembered, true or not. -/
theorem configurationChanged_anew (located : e.Located) (usable : e.reload.2 = none)
    (settle : ∀ d ∈ e.openDocuments, e.renewed.machine.Settles d.path) :
    e.configurationChanged.1.forgetful = e.forgetful.configurationChangedAnew.1.forgetful ∧
    e.configurationChanged.2 = e.forgetful.configurationChangedAnew.2 ∧
    e.configurationChanged.1.Faithful ∧ e.configurationChanged.1.Located := by
  obtain ⟨machine, store, events, _, same⟩ := e.renewed_eq
  have changedAnew : e.forgetful.configurationChangedAnew = e.reload.1.forgetful.revalidateAllAnew e.openDocuments := by
    have documents : e.reload.1.session.documents = e.session.documents := by
      rcases e.reload_cases with ⟨f, same⟩ | ⟨machine, store, events, _, same⟩
      · rw [same]
      · rw [same]
        rfl
    rw [configurationChangedAnew, forgetful, reload_remembering, usable, openDocuments, ← documents]
    rfl
  have unsure : e.renewed.Faithful := by
    rw [same]
    rintro path s ⟨⟩
  have homes : e.renewed.Located := by
    rw [same]
    exact located.of_same rfl rfl
  rw [configurationChanged_eq usable, changedAnew]
  exact revalidateAll_anew unsure homes rfl located.opened settle

/-! ## Changes on the disk -/

theorem settingsNow_sources {machine : Machine} (change : e.machine.SourcesChange machine) (path : String) :
    ({ e with machine } : Engine).settingsNow path = e.settingsNow path := by
  have leads : machine.tree.resolve machine.directory path = e.machine.tree.resolve e.machine.directory path := by
    rw [change.directory, FileTree.resolve_shape change.shape]
  cases resolved : e.machine.tree.resolve e.machine.directory path with
  | error f =>
    rw [settingsNow_unresolved resolved]
    exact settingsNow_unresolved (e := { e with machine }) (leads.trans resolved)
  | ok p =>
    have plain : p.parent.Plain := (FileTree.resolve_plain resolved).parent
    rw [change.directory] at leads
    have same := Settings.Store.settingsFor_contents (s := e.store) resolved (leads.trans resolved) fun q counts =>
      change.folders q (Settings.Store.foldersFor_plain plain counts)
    change e.store.settingsFor machine.tree machine.directory path = _
    rw [change.directory]
    exact same

/-! ## Runs -/

/-- The documents that a move gives. -/
def given (e : Engine) : Move → List Document
  | .loaded path version => (e.load path version).2.toOption.toList
  | .configured => e.configurationChanged.1.openDocuments
  | _ => []

/-- What is asked of a move of an engine when some documents have been given, and some moves follow:
a document is one of these, the settings of the user can be read, and unless nothing but sources
changes on the disk, the configuration is said to have changed at once. -/
def Permitted (e : Engine) (known : List Document) (later : List Move) : Move → Prop
  | .opened d => d ∈ known
  | .consulted d => d ∈ known
  | .configured => e.reload.2 = none
  | .moved machine => e.machine.SourcesChange machine ∨ ∀ m ∈ later.head?, m = .configured
  | _ => True

/-- What is asked of all moves of a run. -/
def Regular (e : Engine) (known : List Document) : List Move → Prop
  | [] => True
  | m :: later => e.Permitted known later m ∧ Regular (e.after m) (e.given m ++ known) later

/-- Every path that a move has read leads to a path that leads to itself. -/
def Settling (e : Engine) : Move → Prop
  | .loaded path _ => e.machine.Settles path
  | .configured => ∀ d ∈ e.openDocuments, e.renewed.machine.Settles d.path
  | _ => True

/-- Every path that is read in a run leads to a path that leads to itself. -/
def Settled (e : Engine) : List Move → Prop
  | [] => True
  | m :: later => e.Settling m ∧ Settled (e.after m) later

theorem given_located (located : e.Located) {known : List Document} {later : List Move} {m : Move}
    (permitted : e.Permitted known later m) (settles : e.Settling m) : ∀ d ∈ e.given m, d.Located := by
  cases m with
  | loaded path version =>
    intro d member
    cases read : (e.load path version).2 with
    | error f =>
      rw [given, read] at member
      cases member
    | ok d' =>
      rw [given, read] at member
      cases List.mem_singleton.mp member
      exact load_located read
  | configured =>
    obtain ⟨_, _, _, located⟩ := configurationChanged_anew located permitted settles
    exact located.opened
  | _ => exact fun d member => nomatch member

theorem afterAnew_of_alike (alike : e'.forgetful = e.forgetful) (m : Move) :
    e'.afterAnew m = e.afterAnew m ∧ e'.answerAnew m = e.answerAnew m := by
  cases m <;> simp only [afterAnew, answerAnew, alike, and_self]

/-- A move whose settings are those in force is seen as if they had been found anew, and so are
those after it, unless the configuration is said to have changed before. -/
theorem after_anew (located : e.Located) {known : List Document} (homes : ∀ d ∈ known, d.Located) {later : List Move}
    {m : Move} (permitted : e.Permitted known later m) (settles : e.Settling m) (sure : m = .configured ∨ e.Faithful) :
    (e.after m).forgetful = (e.afterAnew m).forgetful ∧ e.answer m = e.answerAnew m ∧ (e.after m).Located ∧
      ((∀ m ∈ later.head?, m = .configured) ∨ (e.after m).Faithful) := by
  rcases sure with rfl | faithful
  · obtain ⟨same, returned, faithful, located⟩ := configurationChanged_anew located permitted settles
    exact ⟨same, congrArg Answer.revalidated returned, located, .inr faithful⟩
  · cases m with
    | configured =>
      obtain ⟨same, returned, faithful, located⟩ := configurationChanged_anew located permitted settles
      exact ⟨same, congrArg Answer.revalidated returned, located, .inr faithful⟩
    | opened d =>
      have opened : e.forgetful.openDocument d = ((e.openDocument d).1.forgetful, (e.openDocument d).2) :=
        e.openDocument_remembering [] d
      refine ⟨?_, ?_, located.openDocument (homes d permitted), .inr ?_⟩
      · exact (congrArg (fun r => r.1.forgetful) opened).symm
      · exact (congrArg (fun r => Answer.scheduled r.2) opened).symm
      · obtain ⟨queue, events, _, same⟩ := e.openDocument_eq d
        rw [after, same]
        exact faithful
    | closed uri =>
      have closed : e.forgetful.closeDocument uri = ((e.closeDocument uri).1.forgetful, (e.closeDocument uri).2) :=
        e.closeDocument_remembering [] uri
      refine ⟨?_, ?_, located.closeDocument uri, .inr ?_⟩
      · exact (congrArg (fun r => r.1.forgetful) closed).symm
      · exact (congrArg (fun r => Answer.closed r.2) closed).symm
      · obtain ⟨queue, same⟩ := e.closeDocument_eq uri
        rw [after, same]
        exact fun path s kept => faithful path s (Keyed.get?_of_get?_erase kept)
    | shut =>
      have frame := e.shutdown_framed
      exact ⟨shutdown_anew faithful located, rfl, located.of_same frame.validations frame.documents,
        .inr (shutdown_faithful faithful located)⟩
    | loaded path version =>
      obtain ⟨settings, loaded, still⟩ := load_faithful faithful settles version
      obtain ⟨others, loadedToo, _⟩ := load_faithful (e := e.forgetful) e.faithful_forgetful settles version
      simp only [after, afterAnew, answer, answerAnew, loaded, loadedToo]
      exact ⟨rfl, rfl, located.of_same rfl rfl, .inr still⟩
    | consulted d =>
      have here := homes d permitted
      obtain ⟨settings, found, still⟩ := settingsFor_faithful faithful here
      obtain ⟨others, foundToo, _⟩ := settingsFor_faithful e.faithful_forgetful here
      simp only [after, afterAnew, answer, answerAnew, found, foundToo]
      exact ⟨rfl, rfl, located.of_same rfl rfl, .inr still⟩
    | released n => exact ⟨rfl, rfl, located.of_same rfl rfl, .inr faithful⟩
    | turned k =>
      have frame := e.turn_framed k
      exact ⟨turn_anew faithful located k, rfl, located.of_same frame.validations frame.documents,
        .inr (turn_faithful faithful located k)⟩
    | moved machine =>
      refine ⟨rfl, rfl, located.of_same rfl rfl, ?_⟩
      rcases permitted with sources | announced
      · exact .inr fun path s kept => (settingsNow_sources sources path).trans (faithful path s kept)
      · exact .inl announced

/-- What is seen of moves is what would be seen if all settings were found anew. -/
theorem run_alike {moves : List Move} {known : List Document} (located : e.Located) (homes : ∀ d ∈ known, d.Located)
    (regular : e.Regular known moves) (settled : e.Settled moves)
    (sure : (∀ m ∈ moves.head?, m = .configured) ∨ e.Faithful) (alike : e'.forgetful = e.forgetful) :
    (e.run moves).forgetful = (e'.runAnew moves).forgetful ∧ e.answers moves = e'.answersAnew moves := by
  induction moves generalizing e e' known with
  | nil => exact ⟨alike.symm, rfl⟩
  | cons m later ih =>
    obtain ⟨permitted, regular⟩ := regular
    obtain ⟨settles, settled⟩ := settled
    obtain ⟨same, answered, stays, surely⟩ :=
      after_anew located homes permitted settles (sure.imp_left fun announced => announced m rfl)
    obtain ⟨moved, told⟩ := afterAnew_of_alike alike m
    obtain ⟨ran, answers⟩ := ih stays
      (fun d member => (List.mem_append.mp member).elim (given_located located permitted settles d) (homes d))
      regular settled surely same.symm
    rw [run_cons, runAnew_cons, moved, Engine.answers, Engine.answersAnew, moved, told, answered, answers]
    exact ⟨ran, rfl⟩

/-- In every run in which documents are those that were read, the settings of the user can be read,
changes of other things than sources are announced at once, and every path that is read leads to a
path that leads to itself, an engine that remembers settings does all that one does that finds them
anew each time: it comes to the same state but for what it remembers, and gives the same. -/
theorem run_eq_runAnew {machine : Machine} {host : Host} {folder : Path} {workspace : Option String} {e : Engine}
    (created : create machine host folder workspace = .ok e) (moves : List Move) (regular : e.Regular [] moves)
    (settled : e.Settled moves) :
    (e.run moves).forgetful = (e.runAnew moves).forgetful ∧ e.answers moves = e.answersAnew moves := by
  obtain ⟨validations, _, _, session, _⟩ := create_eq created
  have located : e.Located := by
    constructor
    · rw [validations]
      rintro d ⟨⟩
    · rw [openDocuments, session]
      rintro d ⟨⟩
  have faithful : e.Faithful := by
    rw [Faithful, session]
    rintro path s ⟨⟩
  exact run_alike located (List.forall_mem_nil _) regular settled (.inr faithful) rfl

theorem settles_of_resolve {m : Machine} {path : String} {p : Path}
    (leads : (m.tree.resolve m.directory path).toOption = some p) (itself : p.text = path) : m.Settles path := by
  intro q found
  rw [found] at leads
  cases leads
  rw [itself]
  exact found

/-- The document of the small machine is validated, an encoding is set for it, and it is validated
anew with its compiler. -/
def encodingAnnounced : List Move :=
  [.loaded "/a.c" 0, .opened (smallDocument 0), .turned 0, .moved (spoiltMachine "ascii"), .configured, .turned 1,
    .turned 0, .released 1, .turned 1, .consulted (smallDocument 0), .closed "file:///a.c"]

theorem run_eq_runAnew_announced :
    ∃ e, create smallMachine .display ⟨"/", ["home"]⟩ none = .ok e ∧ e.Regular [] encodingAnnounced ∧
      e.Settled encodingAnnounced ∧ (e.run encodingAnnounced).forgetful = (e.runAnew encodingAnnounced).forgetful ∧
      e.answers encodingAnnounced = e.answersAnew encodingAnnounced := by
  have checked : (create smallMachine .display ⟨"/", ["home"]⟩ none).toOption.any (fun e =>
      let announced := e.run (encodingAnnounced.take 4)
      (e.load "/a.c" 0).2.toOption = some (smallDocument 0) ∧
      (e.machine.tree.resolve e.machine.directory "/a.c").toOption = some ⟨"/", ["a.c"]⟩ ∧
      announced.reload.2 = none ∧ announced.openDocuments = [smallDocument 0] ∧
      (announced.renewed.machine.tree.resolve announced.renewed.machine.directory "/a.c").toOption =
        some ⟨"/", ["a.c"]⟩) = true := by
    decide +kernel
  obtain ⟨e, created, holds⟩ := exists_ok_of_any checked
  obtain ⟨read, leads, usable, opened, leadsToo⟩ := of_decide_eq_true holds
  have known : e.given (.loaded "/a.c" 0) = [smallDocument 0] := by rw [given, read]; rfl
  have regular : e.Regular [] encodingAnnounced := by
    simp only [encodingAnnounced, Regular, Permitted, known, true_and, and_true]
    refine ⟨List.mem_singleton.mpr rfl, .inr ?_, usable, ?_⟩
    · rintro m ⟨⟩
      rfl
    · simp only [given, List.nil_append, List.append_nil, List.mem_append]
      exact .inr (List.mem_singleton.mpr rfl)
  have settled : e.Settled encodingAnnounced := by
    simp only [encodingAnnounced, Settled, Settling, true_and, and_true]
    refine ⟨settles_of_resolve leads (by decide), fun d member => ?_⟩
    change d ∈ (e.run (encodingAnnounced.take 4)).openDocuments at member
    rw [opened] at member
    cases List.mem_singleton.mp member
    change (e.run (encodingAnnounced.take 4)).renewed.machine.Settles "/a.c"
    exact settles_of_resolve leadsToo (by decide)
  exact ⟨e, created, regular, settled, run_eq_runAnew created _ regular settled⟩

/-- A machine with a source file in a folder with a compiler of its own, and a link to that file
from another folder, which also has a link that leads back to itself. -/
def loopedMachine : Machine where
  tree := ⟨[(["home"], .directory), (["l"], .link "l"), (["x.c"], .link "sub/y.c"), (["sub"], .directory),
    (["sub", "y.c"], .file [10]), (["sub", ".cccdiag.json"],
      .file (Encoding.Utf8.encode "\x7b\"compileCommand\": \"clang\"\x7d".toList))]⟩
  directory := []

/-- The document of that machine as it is read by way of the looping link. -/
def loopedMoves : List Move :=
  [.loaded "/l/../x.c" 0, .opened ⟨"file:///x.c", "/x.c", "\n", 0⟩, .turned 0]

/-- A path that leads to a link is read with the settings of the link's folder, and these are
remembered where those of the file's folder would be found anew. -/
theorem run_ne_runAnew_looped :
    ∃ e, create loopedMachine .display ⟨"/", ["home"]⟩ none = .ok e ∧ e.Regular [] loopedMoves ∧
      (e.run loopedMoves).trace ≠ (e.runAnew loopedMoves).trace := by
  have checked : (create loopedMachine .display ⟨"/", ["home"]⟩ none).toOption.any (fun e =>
      (e.load "/l/../x.c" 0).2.toOption = some ⟨"file:///x.c", "/x.c", "\n", 0⟩ ∧
      (e.run loopedMoves).trace ≠ (e.runAnew loopedMoves).trace) = true := by
    decide +kernel
  obtain ⟨e, created, holds⟩ := exists_ok_of_any checked
  obtain ⟨read, differ⟩ := of_decide_eq_true holds
  have known : e.given (.loaded "/l/../x.c" 0) = [⟨"file:///x.c", "/x.c", "\n", 0⟩] := by rw [given, read]; rfl
  refine ⟨e, created, ?_, differ⟩
  simp only [loopedMoves, Regular, Permitted, known, true_and, and_true]
  exact List.mem_singleton.mpr rfl

end Engine

end Diagnosis
