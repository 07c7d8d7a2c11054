import Diagnosis.Proofs.Engine.Publication
import Diagnosis.Proofs.FileTree.Resolve

/-!
# Reading documents anew

When the configuration changes, every open document is read anew. What becomes of
each does not depend on the others: settings that are remembered for an address are
those that would be found anew, because no two files have one address.
-/

namespace Diagnosis.Engine

/-! ## One document by itself -/

/-- A file read with the settings that are in force for it. -/
def readNow (e : Engine) (path : String) (version : Int) : Except Failure Document := do
  let s ← e.settingsNow path
  Document.read e.machine.tree e.machine.directory path s.encoding version

/-- What becomes of a document that is read anew. -/
inductive Handling where
  /-- It is validated, with the text that was read or the old one. -/
  | accepted (d : Document)
  /-- The user is told why it is not. -/
  | reported (f : EngineError)
  /-- A failure goes out of the engine. -/
  | raised (f : Failure)

/-- What becomes of a document that is read anew by itself. -/
def handle (e : Engine) (d : Document) : Handling :=
  match e.readNow d.path d.version with
  | .ok d' => .accepted d'
  | .error (.engine f) => .reported f
  | .error (.system _) => .accepted d
  | .error f => .raised f

namespace Handling

/-- The document that is validated. -/
def accepted? : Handling → Option Document
  | accepted d => some d
  | _ => none

/-- What the user is told. -/
def notified? : Handling → Option String
  | reported f => some f.notification
  | _ => none

/-- The failure that goes out. -/
def raised? : Handling → Option Failure
  | raised f => some f
  | _ => none

end Handling

/-- What becomes of documents that are read anew in turn, up to the first failure that goes out. -/
def handlings (e : Engine) : List Document → List Handling
  | [] => []
  | d :: rest =>
    match e.handle d with
    | .raised f => [.raised f]
    | h => h :: handlings e rest

/-- The error messages in some events. -/
def errorsIn (events : List Event) : List String :=
  events.filterMap fun
    | .notice (.error message) => some message
    | _ => none

@[simp] theorem errorsIn_append (first second : List Event) :
    errorsIn (first ++ second) = errorsIn first ++ errorsIn second := by
  simp [errorsIn]

/-- The errors are among what a host is told. -/
theorem errorsIn_eq_noticesIn (events : List Event) : errorsIn events = (noticesIn events).filterMap Notice.error? := by
  rw [noticesIn, List.filterMap_filterMap, errorsIn]
  refine congrArg (List.filterMap · events) (funext fun event => ?_)
  cases event with
  | notice n => cases n <;> rfl
  | _ => rfl

theorem errorsIn_of_noticesIn {events : List Event} (untold : noticesIn events = []) : errorsIn events = [] := by
  rw [errorsIn_eq_noticesIn, untold]
  rfl

/-! ## Settings that are remembered -/

/-- All settings that are remembered are those in force for a file of the address. -/
def Coherent (e : Engine) : Prop :=
  ∀ uri s, e.session.settings.get? uri = some s → ∃ path p,
    e.machine.tree.resolve e.machine.directory path = .ok p ∧ Uri.ofPath p.text = uri ∧ e.settingsNow path = .ok s

/-- The settings for a file depend on where its path leads, and on nothing else of it. -/
theorem settingsNow_congr {e : Engine} {path path' : String}
    (same : e.machine.tree.resolve e.machine.directory path = e.machine.tree.resolve e.machine.directory path') :
    e.settingsNow path = e.settingsNow path' := by
  unfold settingsNow Settings.Store.settingsFor Settings.Store.folderFiles Settings.Store.directoryOf
  rw [same]

/-- A path that leads nowhere has no settings. -/
theorem settingsNow_unresolved {e : Engine} {path : String} {f : Failure}
    (failed : e.machine.tree.resolve e.machine.directory path = .error f) : e.settingsNow path = .error f := by
  unfold settingsNow Settings.Store.settingsFor Settings.Store.folderFiles Settings.Store.directoryOf
  rw [failed]
  rfl

theorem Coherent.remembered {e : Engine} (coherent : Coherent e) {path : String} {p : Path} {s : Settings}
    (resolved : e.machine.tree.resolve e.machine.directory path = .ok p)
    (kept : e.session.settings.get? (Uri.ofPath p.text) = some s) : e.settingsNow path = .ok s := by
  obtain ⟨path', p', resolved', address, found⟩ := coherent _ s kept
  have texts := Uri.ofPath_injective address
  have same := Path.text_injective (FileTree.resolve_plain resolved') (FileTree.resolve_plain resolved) texts
  subst same
  rw [settingsNow_congr (resolved.trans resolved'.symm), found]

/-- With coherent settings, a file is read as if none were remembered. -/
theorem load_coherent {e : Engine} (coherent : Coherent e) (path : String) (version : Int) :
    ∃ settings : Keyed Settings,
      e.load path version = (e.withSession { e.session with settings }, e.readNow path version) ∧
      Coherent (e.withSession { e.session with settings }) := by
  unfold load readNow
  cases resolved : e.machine.tree.resolve e.machine.directory path with
  | error f => exact ⟨_, by rw [settingsNow_unresolved resolved]; rfl, coherent⟩
  | ok p =>
    dsimp only
    rcases e.settingsFor_cases (Uri.ofPath p.text) path with ⟨s, kept, same⟩ | ⟨f, found, same⟩ | ⟨s, found, same⟩
    · rw [same, coherent.remembered resolved kept]
      exact ⟨_, rfl, coherent⟩
    · rw [same, found]
      exact ⟨_, rfl, coherent⟩
    · rw [same, found]
      refine ⟨_, rfl, fun uri s' kept => ?_⟩
      by_cases here : uri = Uri.ofPath p.text
      · subst here
        have value : some s = some s' := (Keyed.get?_put_self ..).symm.trans kept
        cases value
        exact ⟨path, p, resolved, rfl, found⟩
      · exact coherent uri s' ((Keyed.get?_put_of_ne here ..).symm.trans kept)

/-! ## One after the other -/

theorem handle_of_same {e e' : Engine} (machine : e'.machine = e.machine) (store : e'.store = e.store)
    (d : Document) : e'.handle d = e.handle d := by
  unfold handle readNow settingsNow
  rw [machine, store]

theorem handlings_of_same {e e' : Engine} (machine : e'.machine = e.machine) (store : e'.store = e.store)
    (ds : List Document) : e'.handlings ds = e.handlings ds := by
  induction ds with
  | nil => rfl
  | cons d rest ih => rw [handlings, handlings, handle_of_same machine store, ih]

/-- The result of reading documents anew: the numbers of the validations, or the failure that goes
out. -/
def outcomeOf (first : Nat) (hs : List Handling) : Except Failure (List Nat) :=
  match hs.findSome? Handling.raised? with
  | some f => .error f
  | none => .ok (List.range' first (hs.filterMap Handling.accepted?).length)

/-- What reading documents anew does to an engine, given what becomes of each. -/
structure Reread (e : Engine) (hs : List Handling) (e' : Engine) (r : Except Failure (List Nat)) : Prop where
  machine : e'.machine = e.machine
  store : e'.store = e.store
  coherent : Coherent e'
  registered : Registered e'
  documents : e'.session.documents =
    (hs.filterMap Handling.accepted?).foldl (fun ds d => ds.put d.uri d) e.session.documents
  triggered : e'.validations.map (·.document) = e.validations.map (·.document) ++ hs.filterMap Handling.accepted?
  /-- A validation of an address that no document is read for goes on. -/
  spared : ∀ (n : Nat) (v : Validation), e.validations[n]? = some v →
    v.document.uri ∉ (hs.filterMap Handling.accepted?).map (·.uri) → e'.validations[n]? = some v
  told : ∃ events, e'.trace = e.trace ++ events ∧ errorsIn events = hs.filterMap Handling.notified?
  returned : r = outcomeOf e.validations.length hs

theorem calledOffAt_documents (e : Engine) (uri : String) :
    (e.calledOffAt uri).map (·.document) = e.validations.map (·.document) := by
  apply List.ext_getElem?
  intro n
  rw [List.getElem?_map, List.getElem?_map, calledOffAt_get]
  cases e.validations[n]? with
  | none => rfl
  | some v =>
    simp only [Option.map_some]
    split <;> simp

theorem calledOffAt_spared {e : Engine} (registered : Registered e) (uri : String) {n : Nat} {v : Validation}
    (known : e.validations[n]? = some v) (other : v.document.uri ≠ uri) : (e.calledOffAt uri)[n]? = some v := by
  rw [calledOffAt_get, known, Option.map_some, if_neg]
  intro held
  obtain ⟨w, found, address⟩ := registered.entry uri n held
  rw [known, Option.some.injEq] at found
  subst found
  exact other address

/-- A document that has been read is opened. -/
theorem openDocument_reread {e : Engine} {settings : Keyed Settings}
    (coherent : Coherent (e.withSession { e.session with settings })) (registered : Registered e) (d : Document)
    (events : List Event) (untold : noticesIn events = []) :
    Reread e [.accepted d] (((e.withSession { e.session with settings }).emit events).openDocument d).1
      (.ok [(((e.withSession { e.session with settings }).emit events).openDocument d).2]) := by
  obtain ⟨queue, more, quiet, opened⟩ := ((e.withSession { e.session with settings }).emit events).openDocument_eq d
  have kept : Registered ((e.withSession { e.session with settings }).emit events) := registered.of_same rfl rfl
  have called : ((e.withSession { e.session with settings }).emit events).calledOffAt d.uri = e.calledOffAt d.uri := rfl
  refine ⟨?_, ?_, ?_, kept.openDocument d, ?_, ?_, ?_, ⟨events ++ more, ?_, ?_⟩, ?_⟩
  · rw [opened]; rfl
  · rw [opened]; rfl
  · rw [opened]; exact coherent
  · rw [opened]; rfl
  · rw [opened, called, List.map_append, calledOffAt_documents]
    rfl
  · intro n v known other
    rw [opened, called]
    have spared := calledOffAt_spared registered d.uri known (by simpa [Handling.accepted?] using other)
    exact (List.getElem?_append_left (List.getElem?_eq_some_iff.mp spared).1).trans spared
  · rw [opened]
    simp [emit, withSession]
  · rw [errorsIn_append, errorsIn_of_noticesIn untold, errorsIn_of_noticesIn quiet]
    rfl
  · rw [opened]
    rfl

/-- A document that has been read is not opened. -/
theorem emit_reread {e : Engine} {settings : Keyed Settings}
    (coherent : Coherent (e.withSession { e.session with settings })) (registered : Registered e) {h : Handling}
    (unaccepted : h.accepted? = none) (events : List Event) (told : errorsIn events = h.notified?.toList) :
    Reread e [h] ((e.withSession { e.session with settings }).emit events) (outcomeOf e.validations.length [h]) where
  machine := rfl
  store := rfl
  coherent := coherent
  registered := registered.of_same rfl rfl
  documents := by simp [unaccepted, emit, withSession]
  triggered := by simp [unaccepted, emit, withSession]
  spared _ _ known _ := known
  told := ⟨events, rfl, by cases notified : h.notified? <;> simp [told, notified]⟩
  returned := rfl

/-- One document is read anew. -/
theorem revalidate_reread {e : Engine} (coherent : Coherent e) (registered : Registered e) (d : Document) :
    Reread e [e.handle d] (e.revalidate d).1 (e.revalidate d).2 := by
  obtain ⟨settings, loaded, still⟩ := load_coherent coherent d.path d.version
  have raises (f : Failure) :
      Reread e [.raised f] (e.withSession { e.session with settings }) (.error f) := by
    have quiet := emit_reread still registered (h := .raised f) rfl [] rfl
    rw [emit_nil] at quiet
    exact quiet
  unfold revalidate revalidate.accept handle
  rw [loaded]
  cases e.readNow d.path d.version with
  | ok d' =>
    have opens := openDocument_reread still registered d' [] rfl
    rw [emit_nil] at opens
    exact opens
  | error f =>
    cases f with
    | engine f =>
      obtain ⟨events, reported, told⟩ : ∃ events, (e.withSession { e.session with settings }).report f =
          (e.withSession { e.session with settings }).emit events ∧ errorsIn events = [f.notification] :=
        ⟨_, emit_emit .., rfl⟩
      dsimp only
      rw [reported]
      exact emit_reread still registered (h := .reported f) rfl events told
    | system f => exact openDocument_reread still registered d [_] rfl
    | _ => exact raises _

theorem outcomeOf_raised (first : Nat) (f : Failure) : outcomeOf first [.raised f] = .error f := rfl

/-- What comes after a document that raises nothing. -/
theorem outcomeOf_cons {h : Handling} (goesOn : h.raised? = none) (first : Nat) (hs : List Handling) :
    outcomeOf first (h :: hs) =
      (outcomeOf (first + h.accepted?.toList.length) hs).map (List.range' first h.accepted?.toList.length ++ ·) := by
  unfold outcomeOf
  rw [List.findSome?_cons, goesOn]
  dsimp only
  cases hs.findSome? Handling.raised? with
  | some f => rfl
  | none =>
    cases accepted : h.accepted? with
    | none => simp [accepted, Except.map]
    | some d => simp [accepted, Except.map, List.range'_succ]

theorem Reread.append {e e' e'' : Engine} {h : Handling} {hs : List Handling} {r r' : Except Failure (List Nat)}
    (first : Reread e [h] e' r) (second : Reread e' hs e'' r') :
    Reread e (h :: hs) e'' (outcomeOf e.validations.length (h :: hs)) := by
  have accepted : (h :: hs).filterMap Handling.accepted? =
      [h].filterMap Handling.accepted? ++ hs.filterMap Handling.accepted? := by
    rw [← List.filterMap_append]
    rfl
  have notified : (h :: hs).filterMap Handling.notified? =
      [h].filterMap Handling.notified? ++ hs.filterMap Handling.notified? := by
    rw [← List.filterMap_append]
    rfl
  obtain ⟨events, grown, told⟩ := first.told
  obtain ⟨more, later, toldToo⟩ := second.told
  constructor
  · exact second.machine.trans first.machine
  · exact second.store.trans first.store
  · exact second.coherent
  · exact second.registered
  · rw [second.documents, first.documents, accepted, List.foldl_append]
  · rw [second.triggered, first.triggered, accepted, List.append_assoc]
  · intro n v known other
    rw [accepted, List.map_append, List.mem_append, not_or] at other
    exact second.spared n v (first.spared n v known other.1) other.2
  · exact ⟨events ++ more, by rw [later, grown, List.append_assoc], by rw [errorsIn_append, told, toldToo, notified]⟩
  · rfl

/-- A document that raises nothing, and then the others. -/
theorem Reread.cons {e e' e'' : Engine} {h : Handling} {hs : List Handling} {r r' : Except Failure (List Nat)}
    (first : Reread e [h] e' r) (goesOn : h.raised? = none) (second : Reread e' hs e'' r') :
    ∃ ns, r = .ok ns ∧ Reread e (h :: hs) e'' (r'.map (ns ++ ·)) := by
  have counts := congrArg List.length first.triggered
  have single : [h].filterMap Handling.accepted? = h.accepted?.toList := by
    cases accepted : h.accepted? <;> simp [accepted]
  rw [List.length_append, List.length_map, List.length_map, single] at counts
  have both := first.append second
  rw [outcomeOf_cons goesOn, ← counts, ← second.returned] at both
  refine ⟨_, ?_, both⟩
  rw [first.returned, outcomeOf_cons goesOn]
  simp [outcomeOf, Except.map]

theorem handlings_cons (e : Engine) (d : Document) (rest : List Document) :
    (∃ f, e.handle d = .raised f ∧ e.handlings (d :: rest) = [.raised f]) ∨
    (e.handle d).raised? = none ∧ e.handlings (d :: rest) = e.handle d :: e.handlings rest := by
  rw [handlings]
  cases e.handle d with
  | accepted d' => exact .inr ⟨rfl, rfl⟩
  | reported f => exact .inr ⟨rfl, rfl⟩
  | raised f => exact .inl ⟨f, rfl, rfl⟩

/-- Every document comes to something, unless there is one that makes an end. -/
theorem handlings_cases (e : Engine) (ds : List Document) :
    e.handlings ds = ds.map e.handle ∨ ∃ d ∈ ds, ∃ f, e.handle d = .raised f ∧ .raised f ∈ e.handlings ds := by
  induction ds with
  | nil => exact .inl rfl
  | cons d rest ih =>
    rcases e.handlings_cons d rest with ⟨f, raised, only⟩ | ⟨_, more⟩
    · exact .inr ⟨d, List.mem_cons_self, f, raised, by rw [only]; exact List.mem_cons_self⟩
    · rw [more]
      rcases ih with all | ⟨d', later, f, raised, member⟩
      · exact .inl (by rw [all, List.map_cons])
      · exact .inr ⟨d', List.mem_cons_of_mem _ later, f, raised, List.mem_cons_of_mem _ member⟩

/-- Documents are read anew one after the other, each as if it were alone. -/
theorem revalidateAll_reread {e : Engine} (coherent : Coherent e) (registered : Registered e) (ds : List Document) :
    Reread e (e.handlings ds) (e.revalidateAll ds).1 (e.revalidateAll ds).2 := by
  induction ds generalizing e with
  | nil =>
    exact ⟨rfl, rfl, coherent, registered, rfl, by simp [handlings, revalidateAll], fun _ _ known _ => known,
      ⟨[], by simp [revalidateAll], rfl⟩, rfl⟩
  | cons d rest ih =>
    have first := revalidate_reread coherent registered d
    obtain ⟨e', r, came⟩ : ∃ e' r, e.revalidate d = (e', r) := ⟨_, _, rfl⟩
    rw [came] at first
    unfold revalidateAll
    rw [came]
    rcases e.handlings_cons d rest with ⟨f, raised, stops⟩ | ⟨goesOn, more⟩
    · have returned := first.returned
      rw [raised, outcomeOf_raised] at returned
      subst returned
      rw [raised] at first
      rw [stops]
      exact first
    · have others := ih first.coherent first.registered
      rw [handlings_of_same first.machine first.store] at others
      obtain ⟨ns, rfl, both⟩ := first.cons goesOn others
      rw [more]
      dsimp only
      cases went : e'.revalidateAll rest with
      | mk e'' r' =>
        rw [went] at both
        cases r' with
        | error f => exact both
        | ok ms => exact both

/-! ## A change of the configuration -/

/-- The documents that are open. -/
def openDocuments (e : Engine) : List Document := e.session.documents.map Prod.snd

/-- An engine that has read the settings of the user anew, and remembers no others. -/
def renewed (e : Engine) : Engine := e.reload.1.withSession e.reload.1.session.invalidate

/-- If the settings of the user cannot be read, nothing changes at all. -/
theorem configurationChanged_failed {e : Engine} {f : Failure} (failed : e.reload.2 = some f) :
    e.configurationChanged = (e, .error f) := by
  rcases e.reload_cases with ⟨f', same⟩ | ⟨machine, store, events, _, same⟩
  · rw [same] at failed
    cases failed
    rw [configurationChanged, same]
  · rw [same] at failed
    cases failed

theorem renewed_eq (e : Engine) : ∃ machine store events, noticesIn events = [] ∧
    e.renewed = (({ e with machine, store } : Engine).withSession e.session.invalidate).emit events := by
  unfold renewed
  rcases e.reload_cases with ⟨f, same⟩ | ⟨machine, store, events, untold, same⟩
  · exact ⟨e.machine, e.store, [], rfl, by rw [same, emit_nil]⟩
  · exact ⟨machine, store, events, untold, by rw [same]; rfl⟩

/-- Otherwise every open document is read anew. -/
theorem configurationChanged_eq {e : Engine} (usable : e.reload.2 = none) :
    e.configurationChanged = e.renewed.revalidateAll e.openDocuments := by
  have documents : e.reload.1.session.documents = e.session.documents := by
    rcases e.reload_cases with ⟨f, same⟩ | ⟨machine, store, events, _, same⟩
    · rw [same]
    · rw [same]
      rfl
  obtain ⟨e', r, reloaded⟩ : ∃ e' r, e.reload = (e', r) := ⟨_, _, rfl⟩
  rw [reloaded] at usable documents
  change r = none at usable
  subst usable
  unfold configurationChanged openDocuments renewed
  rw [reloaded, ← documents]
  rfl

theorem configurationChanged_reread {e : Engine} (registered : Registered e) (usable : e.reload.2 = none) :
    Reread e.renewed (e.renewed.handlings e.openDocuments) e.configurationChanged.1 e.configurationChanged.2 := by
  obtain ⟨machine, store, events, _, same⟩ := e.renewed_eq
  rw [configurationChanged_eq usable]
  refine revalidateAll_reread ?_ ?_ e.openDocuments
  · rw [same]
    intro uri s kept
    cases kept
  · rw [same]
    exact registered.of_same rfl rfl

end Diagnosis.Engine
