import Diagnosis.Proofs.Engine.Reread

/-!
# Documents by themselves

A change of the configuration does one of two things for every open document,
whatever the others come to: it validates the document, or it reports why not. It
does so for all of them exactly if every path still leads to a file of the
document's address, and no failure comes up but those that are reported.
-/

namespace Diagnosis.Engine

/-! ## Open documents -/

/-- Every open document is kept under its own address. -/
def Addressed (e : Engine) : Prop := ∀ entry ∈ e.session.documents, entry.2.uri = entry.1

theorem addressed_invariant : Invariant fun e => Registered e ∧ Addressed e where
  remembers _ _ holds := ⟨holds.1.of_same rfl rfl, holds.2⟩
  speaks _ _ _ holds := ⟨holds.1.of_same rfl rfl, holds.2⟩
  moves _ _ _ holds := ⟨holds.1.of_same rfl rfl, holds.2⟩
  opens e d holds := by
    refine ⟨holds.1.openDocument d, ?_⟩
    obtain ⟨queue, events, _, opened⟩ := e.openDocument_eq d
    rw [opened]
    intro entry member
    rcases Keyed.mem_put member with rfl | old
    · rfl
    · exact holds.2 entry old
  queues _ _ holds := ⟨holds.1.of_same rfl rfl, holds.2⟩
  closes e uri holds := by
    refine ⟨holds.1.closeDocument uri, ?_⟩
    obtain ⟨queue, closed⟩ := e.closeDocument_eq uri
    rw [closed]
    intro entry member
    exact holds.2 entry (List.mem_filter.mp member).1
  turns e k holds := by
    refine ⟨holds.1.turn k, ?_⟩
    rcases e.turn_works k with ⟨_, _, session⟩ | ⟨errand, d, p, p', shown, working⟩
    · rw [Addressed, session]
      exact holds.2
    · have documents := working.documents
      rw [after] at documents
      rw [Addressed, documents]
      exact holds.2
  shuts e holds := by
    refine ⟨holds.1.shutdown, ?_⟩
    rw [Addressed, (shutdown_silent holds.1).1.session]
    exact holds.2

theorem addressed_create {machine : Machine} {host : Host} {folder : Path} {workspace : Option String} {e : Engine}
    (created : create machine host folder workspace = .ok e) : Addressed e := by
  obtain ⟨_, _, _, session, _⟩ := create_eq created
  rw [Addressed, session]
  intro entry member
  cases member

/-- Opening documents under addresses that are open opens no others. -/
theorem keys_foldl_put {documents : Keyed Document} {ds : List Document}
    (opened : ∀ d ∈ ds, d.uri ∈ documents.keys) :
    (ds.foldl (fun documents d => documents.put d.uri d) documents).keys = documents.keys := by
  induction ds generalizing documents with
  | nil => rfl
  | cons d rest ih =>
    have same : (documents.put d.uri d).keys = documents.keys := by
      rw [Keyed.keys_put, if_pos (opened d List.mem_cons_self)]
    rw [List.foldl_cons, ih, same]
    intro d' later
    rw [same]
    exact opened d' (List.mem_cons_of_mem _ later)

/-! ## What a document needs -/

/-- A document can be read anew by itself: its path leads somewhere, and if settings and the bytes
of a file are found, these are text of the document's own address, or no text in a way that is
reported. -/
def Orderly (e : Engine) (d : Document) : Prop :=
  ∃ p, e.machine.tree.resolve e.machine.directory d.path = .ok p ∧
    ∀ s bytes, e.settingsNow d.path = .ok s → e.machine.tree.read e.machine.directory p.text = .ok bytes →
      (∃ text, decodeText bytes s.encoding p.text = .ok text ∧ Uri.ofPath p.text = d.uri) ∨
      ∃ f, decodeText bytes s.encoding p.text = .error (.engine f)

/-- What becomes of a document that is read anew stays with it: it is validated under its own
address, or reported. -/
def Contained (d : Document) : Handling → Prop
  | .accepted d' => d'.uri = d.uri
  | .reported _ => True
  | .raised _ => False

/-- A path that leads nowhere is not a fault that is reported, nor a refusal of the system. -/
theorem resolve_error {t : FileTree} {directory : List String} {path : String} {f : Failure}
    (failed : t.resolve directory path = .error f) : (∃ m, f = .value m) ∨ ∃ m, f = .runtime m := by
  unfold FileTree.resolve at failed
  split at failed
  · cases failed
    exact .inl ⟨_, rfl⟩
  · dsimp only at failed
    split at failed
    · cases failed
      exact .inr ⟨_, rfl⟩
    · cases failed

/-- Where a path leads somewhere, only a fault of the configuration can stand against its settings. -/
theorem settingsNow_error {e : Engine} {path : String} {p : Path} {f : Failure}
    (resolved : e.machine.tree.resolve e.machine.directory path = .ok p) (failed : e.settingsNow path = .error f) :
    ∃ fault, f = .engine (.configuration fault) := by
  have shape : ∃ checked : Except ConfigurationFault Settings,
      e.settingsNow path = checked.mapError fun fault => .engine (.configuration fault) := by
    unfold settingsNow Settings.Store.settingsFor Settings.Store.folderFiles Settings.Store.directoryOf
    rw [resolved]
    exact ⟨_, rfl⟩
  obtain ⟨checked, same⟩ := shape
  rw [same] at failed
  cases checked with
  | ok s => cases failed
  | error fault =>
    cases failed
    exact ⟨fault, rfl⟩

/-- The system has no part in what bytes mean. -/
theorem decodeText_error {bytes : List Nat} {encoding what : String} {f : Failure}
    (failed : decodeText bytes encoding what = .error f) : ∀ g, f ≠ .system g := by
  have whole {α : Type} {x : Except Encoding.Refusal α} (wrong : x.mapError (refusedBytes encoding what) = .error f) :
      ∀ g, f ≠ .system g := by
    rintro g rfl
    cases x with
    | ok a => cases wrong
    | error refusal => cases refusal <;> cases wrong
  have stepwise {α : Type} {x : Except Encoding.DecodeError α}
      (wrong : x.mapError (invalidBytes encoding what) = .error f) : ∀ g, f ≠ .system g := by
    rintro g rfl
    cases x with
    | ok a => cases wrong
    | error fault => cases wrong
  unfold decodeText at failed
  split at failed
  · cases failed
    exact fun g same => by cases same
  · split at failed
    · cases failed
      exact fun g same => by cases same
    · split at failed
      · cases failed
      · split at failed
        · cases failed
          exact fun g same => by cases same
        · exact whole failed
        · exact stepwise failed

/-- A file is read where its path leads. -/
theorem read_of_resolve {t : FileTree} {directory : List String} {path encoding : String} {version : Int} {p : Path}
    (resolved : t.resolve directory path = .ok p) :
    Document.read t directory path encoding version =
      match t.read directory p.text with
      | .error f => .error (.system f)
      | .ok bytes => (decodeText bytes encoding p.text).map fun text => ⟨Uri.ofPath p.text, p.text, text, version⟩ := by
  unfold Document.read
  rw [resolved]
  dsimp only [bind, Except.bind]
  cases t.read directory p.text with
  | error f => rfl
  | ok bytes =>
    dsimp only [Except.mapError]
    cases decodeText bytes encoding p.text with
    | error f => rfl
    | ok text => rfl

/-- A document that has been read is the text of the file that its path leads to. -/
theorem read_eq_ok {t : FileTree} {directory : List String} {path encoding : String} {version : Int} {d : Document}
    (given : Document.read t directory path encoding version = .ok d) :
    ∃ p text, t.resolve directory path = .ok p ∧ d = ⟨Uri.ofPath p.text, p.text, text, version⟩ := by
  cases resolved : t.resolve directory path with
  | error f =>
    rw [Document.read, resolved] at given
    cases given
  | ok p =>
    rw [read_of_resolve resolved] at given
    split at given
    · cases given
    · rename_i bytes _
      cases decoded : decodeText bytes encoding p.text with
      | error f =>
        rw [decoded] at given
        cases given
      | ok text =>
        rw [decoded] at given
        cases given
        exact ⟨p, text, rfl, rfl⟩

/-- What becomes of a document stays with it if and only if the document can be read anew by itself. -/
theorem contained_iff (e : Engine) (d : Document) : Contained d (e.handle d) ↔ Orderly e d := by
  unfold handle readNow
  cases resolved : e.machine.tree.resolve e.machine.directory d.path with
  | error f =>
    rw [settingsNow_unresolved resolved]
    have nowhere : ¬ Orderly e d := by
      rintro ⟨p, found, _⟩
      rw [resolved] at found
      cases found
    rcases resolve_error resolved with ⟨m, rfl⟩ | ⟨m, rfl⟩
    · exact iff_of_false id nowhere
    · exact iff_of_false id nowhere
  | ok p =>
    cases found : e.settingsNow d.path with
    | error f =>
      obtain ⟨fault, rfl⟩ := settingsNow_error resolved found
      refine iff_of_true trivial ⟨p, resolved, fun s bytes now => ?_⟩
      rw [found] at now
      cases now
    | ok s =>
      dsimp only [bind, Except.bind]
      rw [read_of_resolve resolved]
      cases bytesRead : e.machine.tree.read e.machine.directory p.text with
      | error f =>
        refine iff_of_true rfl ⟨p, resolved, fun s' bytes _ some_bytes => ?_⟩
        rw [bytesRead] at some_bytes
        cases some_bytes
      | ok bytes =>
        have orderly_iff : Orderly e d ↔
            (∃ text, decodeText bytes s.encoding p.text = .ok text ∧ Uri.ofPath p.text = d.uri) ∨
            ∃ f, decodeText bytes s.encoding p.text = .error (.engine f) := by
          constructor
          · rintro ⟨p', resolved', needs⟩
            rw [resolved, Except.ok.injEq] at resolved'
            subst resolved'
            exact needs s bytes found bytesRead
          · intro needs
            refine ⟨p, resolved, fun s' bytes' now some_bytes => ?_⟩
            rw [found, Except.ok.injEq] at now
            rw [bytesRead, Except.ok.injEq] at some_bytes
            subst now some_bytes
            exact needs
        rw [orderly_iff]
        cases decoded : decodeText bytes s.encoding p.text with
        | ok text => simp [Contained, Except.map, decoded]
        | error f =>
          have unrefused := decodeText_error decoded
          cases f with
          | engine f => simp [Contained, Except.map, decoded]
          | system f => exact absurd rfl (unrefused f)
          | _ => simp [Contained, Except.map, decoded]

theorem orderly_of_accepted {e : Engine} {d d' : Document} (accepted : (e.handle d).accepted? = some d')
    (address : d'.uri = d.uri) : Orderly e d := by
  refine (contained_iff e d).mp ?_
  cases handling : e.handle d with
  | accepted d'' =>
    rw [handling] at accepted
    cases accepted
    exact address
  | reported f => exact trivial
  | raised f => rw [handling] at accepted; cases accepted

theorem not_orderly_of_raised {e : Engine} {d : Document} (raised : (e.handle d).raised?.isSome = true) :
    ¬ Orderly e d := by
  intro orderly
  have contained := (contained_iff e d).mpr orderly
  cases handling : e.handle d with
  | accepted d' => rw [handling] at raised; cases raised
  | reported f => rw [handling] at raised; cases raised
  | raised f => rw [handling] at contained; exact contained

/-! ## All documents -/

/-- A change of the configuration treats every open document by itself: it returns, the same
addresses are open as before, and for each document there is one new validation under its address,
or one error message, as becomes of the document when it is read alone. -/
structure Isolated (e : Engine) : Prop where
  returns : ∃ ns, e.configurationChanged.2 = .ok ns
  opens : e.configurationChanged.1.session.documents.keys = e.session.documents.keys
  each : ∀ d ∈ e.openDocuments, Contained d (e.renewed.handle d)
  triggered : e.configurationChanged.1.validations.map (·.document) =
    e.validations.map (·.document) ++ e.openDocuments.filterMap fun d => (e.renewed.handle d).accepted?
  told : ∃ events, e.configurationChanged.1.trace = e.trace ++ events ∧
    errorsIn events = e.openDocuments.filterMap fun d => (e.renewed.handle d).notified?

theorem handlings_contained {e : Engine} {ds : List Document} (contained : ∀ d ∈ ds, Contained d (e.handle d)) :
    e.handlings ds = ds.map e.handle ∧ (e.handlings ds).findSome? Handling.raised? = none := by
  rcases e.handlings_cases ds with all | ⟨d, member, f, raised, _⟩
  · refine ⟨all, List.findSome?_eq_none_iff.mpr fun h inside => ?_⟩
    rw [all] at inside
    obtain ⟨d, member, rfl⟩ := List.mem_map.mp inside
    have stays := contained d member
    cases handling : e.handle d with
    | accepted _ => rfl
    | reported _ => rfl
    | raised _ => rw [handling] at stays; exact stays.elim
  · have stays := contained d member
    rw [raised] at stays
    exact stays.elim

theorem contained_isolated {e : Engine} (registered : Registered e) (addressed : Addressed e)
    (usable : e.reload.2 = none) (contained : ∀ d ∈ e.openDocuments, Contained d (e.renewed.handle d)) :
    Isolated e := by
  have reread := configurationChanged_reread registered usable
  obtain ⟨handled, unraised⟩ := handlings_contained contained
  obtain ⟨machine, store, before, untold, same⟩ := e.renewed_eq
  obtain ⟨events, grown, told⟩ := reread.told
  have documents : e.renewed.session.documents = e.session.documents := by rw [same]; rfl
  have validations : e.renewed.validations = e.validations := by rw [same]; rfl
  have trace : e.renewed.trace = e.trace ++ before := by rw [same]; rfl
  have accepted : (e.renewed.handlings e.openDocuments).filterMap Handling.accepted? =
      e.openDocuments.filterMap fun d => (e.renewed.handle d).accepted? := by
    rw [handled, List.filterMap_map]
    rfl
  refine ⟨?_, ?_, contained, ?_, before ++ events, ?_, ?_⟩
  · rw [reread.returned, outcomeOf, unraised]
    exact ⟨_, rfl⟩
  · rw [reread.documents, documents, accepted]
    refine keys_foldl_put fun d' member => ?_
    obtain ⟨d, opened, became⟩ := List.mem_filterMap.mp member
    have stays := contained d opened
    obtain ⟨entry, inside, rfl⟩ := List.mem_map.mp opened
    cases handling : e.renewed.handle entry.2 with
    | accepted d'' =>
      rw [handling] at became stays
      cases became
      rw [show d'.uri = entry.1 from stays.trans (addressed entry inside)]
      exact List.mem_map.mpr ⟨entry, inside, rfl⟩
    | reported f => rw [handling] at became; cases became
    | raised f => rw [handling] at became; cases became
  · rw [reread.triggered, validations, accepted]
  · rw [grown, trace, List.append_assoc]
  · rw [errorsIn_append, errorsIn_of_noticesIn untold, told, handled, List.filterMap_map]
    rfl

/-- In every run of an engine, if the settings of the user can be read, a change of the configuration
treats every open document by itself if and only if each can be read anew by itself. -/
theorem configuration_change_isolated_iff {machine : Machine} {host : Host} {folder : Path}
    {workspace : Option String} {e : Engine} (created : create machine host folder workspace = .ok e)
    (moves : List Move) (usable : (e.run moves).reload.2 = none) :
    Isolated (e.run moves) ↔ ∀ d ∈ (e.run moves).openDocuments, Orderly (e.run moves).renewed d := by
  obtain ⟨registered, addressed⟩ :=
    addressed_invariant.run e moves ⟨registered_create created, addressed_create created⟩
  constructor
  · intro isolated d opened
    exact (contained_iff _ d).mp (isolated.each d opened)
  · intro orderly
    exact contained_isolated registered addressed usable fun d opened => (contained_iff _ d).mpr (orderly d opened)

/-- The document of the small machine is open when an encoding is set. -/
def openedThenSet (encoding : String) : List Move :=
  [.opened (smallDocument 0), .moved (spoiltMachine encoding)]

/-- It is treated by itself if the encoding gives its text, and not if the encoding refuses that in a
way that is not reported. -/
theorem configuration_change_isolated_set :
    ∃ e, create smallMachine .display ⟨"/", ["home"]⟩ none = .ok e ∧
      Isolated (e.run (openedThenSet "ascii")) ∧ ¬ Isolated (e.run (openedThenSet "undefined")) := by
  have checked : (create smallMachine .display ⟨"/", ["home"]⟩ none).toOption.any (fun e =>
      ((e.run (openedThenSet "ascii")).reload.2 = none ∧
        (e.run (openedThenSet "ascii")).openDocuments = [smallDocument 0] ∧
        ((e.run (openedThenSet "ascii")).renewed.handle (smallDocument 0)).accepted? = some (smallDocument 0)) ∧
      (e.run (openedThenSet "undefined")).reload.2 = none ∧
      (e.run (openedThenSet "undefined")).openDocuments = [smallDocument 0] ∧
      ((e.run (openedThenSet "undefined")).renewed.handle (smallDocument 0)).raised?.isSome = true) = true := by
    decide +kernel
  obtain ⟨e, created, holds⟩ := exists_ok_of_any checked
  obtain ⟨⟨usable, opened, accepted⟩, usableToo, openedToo, raised⟩ := of_decide_eq_true holds
  refine ⟨e, created, ?_, ?_⟩
  · refine (configuration_change_isolated_iff created _ usable).mpr fun d member => ?_
    rw [opened, List.mem_singleton] at member
    subst member
    exact orderly_of_accepted accepted rfl
  · intro isolated
    have orderly := (configuration_change_isolated_iff created _ usableToo).mp isolated
    rw [openedToo] at orderly
    exact not_orderly_of_raised raised (orderly (smallDocument 0) List.mem_cons_self)

end Diagnosis.Engine
