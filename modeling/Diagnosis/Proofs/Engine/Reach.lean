import Diagnosis.Proofs.Engine.Course
import Diagnosis.Proofs.FileTree.Standing
import Diagnosis.Proofs.Result

/-!
# How far a change of the configuration reaches

When the configuration changes, a file that can be read with the new settings is validated if the path
of some open document leads to it, and not otherwise.
-/

namespace Diagnosis.Engine

variable {e : Engine} {d d' o : Document} {path : String} {version : Int}

/-! ## A file and the paths that lead to it -/

theorem readNow_eq_ok (given : e.readNow path version = .ok d) :
    ∃ s p bytes text, e.settingsNow path = .ok s ∧ e.machine.tree.resolve e.machine.directory path = .ok p ∧
      e.machine.tree.read e.machine.directory p.text = .ok bytes ∧ decodeText bytes s.encoding p.text = .ok text ∧
      d = ⟨Uri.ofPath p.text, p.text, text, version⟩ := by
  obtain ⟨s, found, read⟩ := bind_eq_ok_iff.mp given
  obtain ⟨p, _, resolved, _⟩ := read_eq_ok read
  rw [read_of_resolve resolved] at read
  split at read
  · cases read
  · rename_i bytes contents
    cases decoded : decodeText bytes s.encoding p.text with
    | error f =>
      rw [decoded] at read
      cases read
    | ok text =>
      rw [decoded] at read
      cases read
      exact ⟨s, p, bytes, text, found, resolved, contents, decoded, rfl⟩

/-- A document whose path leads to a file that can be read is validated with the text of the file. -/
theorem handle_of_leads (given : e.readNow path version = .ok d)
    (leads : e.machine.tree.resolve e.machine.directory o.path = e.machine.tree.resolve e.machine.directory path) :
    e.handle o = .accepted { d with version := o.version } := by
  obtain ⟨s, p, bytes, text, found, resolved, contents, decoded, rfl⟩ := readNow_eq_ok given
  have again : e.readNow o.path o.version = .ok ⟨Uri.ofPath p.text, p.text, text, o.version⟩ := by
    refine bind_eq_ok_iff.mpr ⟨s, (settingsNow_congr leads).trans found, ?_⟩
    rw [read_of_resolve (leads.trans resolved), contents]
    simp only [decoded]
    rfl
  rw [handle, again]

/-- The system does not refuse to give a file anew that it has given under this path from the root. -/
theorem readNow_unrefused {bytes : List Nat} (rooted : Rooted path)
    (contents : e.machine.tree.read e.machine.directory path = .ok bytes) (g : SystemError) :
    e.readNow path version ≠ .error (.system g) := by
  intro refused
  cases resolved : e.machine.tree.resolve e.machine.directory path with
  | error f =>
    rw [readNow, settingsNow_unresolved resolved] at refused
    cases refused
    rcases resolve_error resolved with ⟨_, other⟩ | ⟨_, other⟩
    · cases other
    · cases other
  | ok p =>
    cases found : e.settingsNow path with
    | error f =>
      obtain ⟨fault, rfl⟩ := settingsNow_error resolved found
      rw [readNow, found] at refused
      cases refused
    | ok s =>
      rw [readNow, found] at refused
      change Document.read _ _ path s.encoding version = _ at refused
      rw [read_of_resolve resolved, FileTree.read_resolved rooted contents resolved] at refused
      dsimp only at refused
      cases decoded : decodeText bytes s.encoding p.text with
      | error f =>
        rw [decoded] at refused
        cases refused
        exact decodeText_error decoded g rfl
      | ok text =>
        rw [decoded] at refused
        cases refused

/-- Of the documents that are validated, one has the address of a file that can be read only if its
path leads there. -/
theorem leads_of_accepted (given : e.readNow path version = .ok d) (home : o.AtHome)
    (accepted : (e.handle o).accepted? = some d') (address : d'.uri = d.uri) :
    e.machine.tree.resolve e.machine.directory o.path = e.machine.tree.resolve e.machine.directory path := by
  obtain ⟨_, p, bytes, _, _, resolved, contents, _, rfl⟩ := readNow_eq_ok given
  change d'.uri = Uri.ofPath p.text at address
  unfold handle at accepted
  split at accepted
  · rename_i again
    cases accepted
    obtain ⟨_, p', _, _, _, resolved', _, _, rfl⟩ := readNow_eq_ok again
    have texts := Uri.ofPath_injective address
    have same := Path.text_injective (FileTree.resolve_plain resolved') (FileTree.resolve_plain resolved) texts
    rw [resolved', resolved, same]
  · cases accepted
  · rename_i g refused
    cases accepted
    -- the file is where its resolved path leads, so that it cannot have been refused
    have here : d'.path = p.text := Uri.ofPath_injective (home.located.symm.trans address)
    exact absurd refused (readNow_unrefused home.rooted (here ▸ contents) g)
  · cases accepted

/-! ## Validations that are about to start -/

/-- Since some time, a document has been scheduled for validation: the last validation under its address
has been triggered since, is of its text, has not started and has not been called off. -/
def ScheduledSince (e e' : Engine) (d : Document) : Prop :=
  ∃ (n : Nat) (v : Validation), e.validations.length ≤ n ∧ e'.inflight.get? d.uri = some n ∧
    e'.validations[n]? = some v ∧ v.phase = .created ∧ v.cancelled = false ∧
    v.document = { d with version := v.document.version }

/-- No validation since some time has started, and the last one under each of their addresses has not
been called off. -/
def Impending (e e' : Engine) : Prop :=
  ∀ (n : Nat) (v : Validation), e.validations.length ≤ n → e'.validations[n]? = some v → v.phase = .created ∧
    ∃ m w, n ≤ m ∧ e'.inflight.get? v.document.uri = some m ∧ e'.validations[m]? = some w ∧ w.cancelled = false

theorem Impending.openDocument {e' : Engine} (impending : Impending e e') (registered : Registered e') (d : Document) :
    Impending e (e'.openDocument d).1 := by
  obtain ⟨queue, events, _, opened⟩ := e'.openDocument_eq d
  have last : (e'.calledOffAt d.uri ++ [({ document := d } : Validation)])[e'.validations.length]? =
      some { document := d } := by
    rw [← e'.calledOffAt_length d.uri]
    exact List.getElem?_concat_length
  intro n v late found
  have origin := openDocument_cases found
  rw [opened]
  rcases origin with old | ⟨here, rfl⟩
  · have early := (List.getElem?_eq_some_iff.mp old).1
    rw [calledOffAt_length] at early
    obtain ⟨v₀, known, document, still, _⟩ := calledOffAt_cases old
    obtain ⟨phase, m, w, later, held, triggered, uncalled⟩ := impending n v₀ late known
    refine ⟨still.trans phase, ?_⟩
    rw [document]
    by_cases same : v₀.document.uri = d.uri
    · rw [same]
      exact ⟨_, _, Nat.le_of_lt early, Keyed.get?_put_self .., last, rfl⟩
    · -- the last validation of another address is not called off
      obtain ⟨_, known', address⟩ := registered.entry _ m held
      cases triggered.symm.trans known'
      have spared := calledOffAt_spared registered d.uri triggered (by rwa [address])
      refine ⟨m, w, later, (Keyed.get?_put_of_ne same ..).trans held, ?_, uncalled⟩
      exact (List.getElem?_append_left (List.getElem?_eq_some_iff.mp spared).1).trans spared
  · exact ⟨rfl, _, _, Nat.le_of_eq here, Keyed.get?_put_self .., last, rfl⟩

theorem impending_stable (e : Engine) : Stable fun e' => Registered e' ∧ Impending e e' where
  remembers _ _ holds := ⟨holds.1.of_same rfl rfl, holds.2⟩
  speaks _ _ _ holds := ⟨holds.1.of_same rfl rfl, holds.2⟩
  moves _ _ _ holds := ⟨holds.1.of_same rfl rfl, holds.2⟩
  opens _ d holds := ⟨holds.1.openDocument d, holds.2.openDocument holds.1 d⟩

theorem Registered.impending (registered : Registered e) : Impending e e.configurationChanged.1 := by
  refine ((impending_stable e).configurationChanged e ⟨registered, fun n v late found => ?_⟩).2
  have early := (List.getElem?_eq_some_iff.mp found).1
  omega

/-! ## What is reached -/

theorem handlings_eq_map {ds : List Document} (quiet : (e.handlings ds).findSome? Handling.raised? = none) :
    e.handlings ds = ds.map e.handle := by
  rcases e.handlings_cases ds with all | ⟨_, _, f, _, member⟩
  · exact all
  · cases List.findSome?_eq_none_iff.mp quiet _ member

/-- After a change of the configuration that comes to its end, the documents of the new validations are
those that come of the open documents, each by itself. -/
theorem configurationChanged_triggers (registered : Registered e) {ns : List Nat}
    (returned : e.configurationChanged.2 = .ok ns) :
    Coherent e.configurationChanged.1 ∧ Registered e.configurationChanged.1 ∧
    e.configurationChanged.1.validations.map (·.document) = e.validations.map (·.document) ++
      (e.openDocuments.map e.configurationChanged.1.handle).filterMap Handling.accepted? := by
  cases usable : e.reload.2 with
  | some f =>
    rw [configurationChanged_failed usable] at returned
    cases returned
  | none =>
    obtain ⟨machine, store, events, _, same⟩ := e.renewed_eq
    have reread := configurationChanged_reread registered usable
    rw [← handlings_of_same reread.machine reread.store] at reread
    have quiet : (e.configurationChanged.1.handlings e.openDocuments).findSome? Handling.raised? = none := by
      have result := reread.returned
      rw [returned, outcomeOf] at result
      split at result
      · cases result
      · assumption
    rw [handlings_eq_map quiet] at reread
    exact ⟨reread.coherent, reread.registered, reread.triggered.trans (by rw [same]; rfl)⟩

/-- The validations that have been added are of the documents that have been added. -/
theorem late_document_iff {e' : Engine} {ds : List Document}
    (triggered : e'.validations.map (·.document) = e.validations.map (·.document) ++ ds) :
    (∃ (n : Nat) (v : Validation), e.validations.length ≤ n ∧ e'.validations[n]? = some v ∧ v.document = d) ↔
      d ∈ ds := by
  have document (n : Nat) : (e'.validations[n]?).map (·.document) =
      (e.validations.map (·.document) ++ ds)[n]? := by
    rw [← List.getElem?_map, triggered]
  constructor
  · rintro ⟨n, v, late, found, rfl⟩
    have inside := document n
    rw [found, List.getElem?_append_right (by simpa using late)] at inside
    exact List.mem_of_getElem? inside.symm
  · intro member
    obtain ⟨i, inside⟩ := List.getElem?_of_mem member
    have late := document (e.validations.length + i)
    rw [List.getElem?_append_right (by simp), List.length_map, Nat.add_sub_cancel_left, inside,
      Option.map_eq_some_iff] at late
    obtain ⟨v, found, same⟩ := late
    exact ⟨_, v, Nat.le_add_right .., found, same⟩

/-- A change of the configuration that comes to its end has a file validated that can be read
afterwards, with the text that is read now, just if the path of an open document leads to it. -/
theorem scheduled_iff (registered : Registered e) (housed : Housed e) {ns : List Nat}
    (returned : e.configurationChanged.2 = .ok ns) (given : (e.configurationChanged.1.load path version).2 = .ok d) :
    let e' := e.configurationChanged.1
    ScheduledSince e e' d ↔ ∃ o ∈ e.openDocuments,
      e'.machine.tree.resolve e'.machine.directory o.path = e'.machine.tree.resolve e'.machine.directory path := by
  obtain ⟨coherent, registered', triggered⟩ := configurationChanged_triggers registered returned
  have impending := registered.impending
  dsimp only
  generalize e.configurationChanged.1 = e' at *
  have read : e'.readNow path version = .ok d := by
    obtain ⟨settings, loaded, _⟩ := load_coherent coherent path version
    rwa [loaded] at given
  have accepted (d' : Document) : d' ∈ (e.openDocuments.map e'.handle).filterMap Handling.accepted? ↔
      ∃ o ∈ e.openDocuments, (e'.handle o).accepted? = some d' := by
    simp only [List.filterMap_map, List.mem_filterMap, Function.comp_apply]
  have home {o : Document} (opened : o ∈ e.openDocuments) : o.AtHome := by
    obtain ⟨entry, inside, rfl⟩ := List.mem_map.mp opened
    exact (housed entry inside).2
  constructor
  · rintro ⟨n, v, late, _, found, _, _, document⟩
    obtain ⟨o, opened, became⟩ := (accepted _).mp ((late_document_iff triggered).mp ⟨n, v, late, found, rfl⟩)
    exact ⟨o, opened, leads_of_accepted read (home opened) became (by rw [document])⟩
  · rintro ⟨o, opened, leads⟩
    have became : (e'.handle o).accepted? = some { d with version := o.version } := by
      rw [handle_of_leads read leads]
      rfl
    obtain ⟨n, v, late, found, same⟩ := (late_document_iff triggered).mpr ((accepted _).mpr ⟨o, opened, became⟩)
    -- the last validation under the address may have come of another document, but from the same file
    obtain ⟨_, m, w, later, held, last, uncalled⟩ := impending n v late found
    have address : v.document.uri = d.uri := by rw [same]
    rw [address] at held
    obtain ⟨w', last', address'⟩ := registered'.entry d.uri m held
    cases last.symm.trans last'
    have lateToo := late.trans later
    obtain ⟨o', opened', became'⟩ := (accepted _).mp ((late_document_iff triggered).mp ⟨m, w, lateToo, last, rfl⟩)
    rw [handle_of_leads read (leads_of_accepted read (home opened') became' address')] at became'
    have text : { d with version := o'.version } = w.document := Option.some.inj became'
    exact ⟨m, w, lateToo, held, last, (impending m w lateToo last).1, uncalled, by rw [← text]⟩

end Diagnosis.Engine
