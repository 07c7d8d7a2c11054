import Diagnosis.Proofs.Engine.Mirror
import Diagnosis.Proofs.Engine.Transparency
import Diagnosis.Proofs.FileTree.Rooted

/-!
# Documents that are read and never closed

Where documents are only opened as they have been read, and none is closed, each is
known by the address of its path from the root, and every set that was ever shown is
that of a document that is still open.
-/

namespace Diagnosis

namespace Keyed

variable {α β : Type}

/-- What is put under names is there afterwards, or what was there before is. -/
theorem mem_foldl_put {name : β → String} {value : β → α} {bs : List β} {m : Keyed α} {entry : String × α}
    (member : entry ∈ bs.foldl (fun m b => m.put (name b) (value b)) m) :
    entry ∈ m ∨ ∃ b ∈ bs, entry = (name b, value b) := by
  induction bs generalizing m with
  | nil => exact .inl member
  | cons b rest ih =>
    rcases ih member with before | ⟨c, later, same⟩
    · rcases mem_put before with same | old
      · exact .inr ⟨b, List.mem_cons_self, same⟩
      · exact .inl old
    · exact .inr ⟨c, List.mem_cons_of_mem _ later, same⟩

theorem isSome_put {key other : String} {value : α} {m : Keyed α} (there : (get? other m).isSome = true) :
    (get? other (put key value m)).isSome = true := by
  by_cases here : other = key
  · subst here
    rw [get?_put_self]
    rfl
  · rwa [get?_put_of_ne here]

theorem isSome_foldl_put {name : β → String} {value : β → α} {bs : List β} {m : Keyed α} {key : String}
    (there : (get? key m).isSome = true) :
    (get? key (bs.foldl (fun m b => m.put (name b) (value b)) m)).isSome = true := by
  induction bs generalizing m with
  | nil => exact there
  | cons b rest ih => exact ih (isSome_put there)

end Keyed

/-- A document is known by the address of its own path, which begins at the root. -/
structure Document.AtHome (d : Document) : Prop where
  located : d.Located
  rooted : Rooted d.path

namespace Engine

variable {e : Engine}

/-! ## What is read is at home -/

theorem read_atHome {t : FileTree} {directory : List String} {path encoding : String} {version : Int} {d : Document}
    (given : Document.read t directory path encoding version = .ok d) : d.AtHome := by
  obtain ⟨p, text, resolved, rfl⟩ := read_eq_ok given
  exact ⟨rfl, FileTree.rooted_resolve resolved⟩

theorem load_atHome {path : String} {version : Int} {d : Document} (given : (e.load path version).2 = .ok d) :
    d.AtHome := by
  unfold load at given
  split at given
  · cases given
  · split at given
    · cases given
    · exact read_atHome given

theorem handle_atHome {d d' : Document} (home : d.AtHome) (accepted : (e.handle d).accepted? = some d') :
    d'.AtHome := by
  unfold handle readNow at accepted
  cases now : e.settingsNow d.path with
  | error f =>
    rw [now] at accepted
    dsimp only [bind, Except.bind] at accepted
    split at accepted
    · rename_i same
      cases same
    · cases accepted
    · cases accepted
      exact home
    · cases accepted
  | ok s =>
    rw [now] at accepted
    dsimp only [bind, Except.bind] at accepted
    split at accepted
    · rename_i given
      cases accepted
      exact read_atHome given
    · cases accepted
    · cases accepted
      exact home
    · cases accepted

theorem mem_handlings {ds : List Document} {h : Handling} (member : h ∈ e.handlings ds) : ∃ d ∈ ds, h = e.handle d := by
  induction ds with
  | nil => cases member
  | cons d rest ih =>
    rcases e.handlings_cons d rest with ⟨f, raised, only⟩ | ⟨_, more⟩
    · rw [only, List.mem_singleton] at member
      exact ⟨d, List.mem_cons_self, by rw [member, raised]⟩
    · rw [more] at member
      rcases List.mem_cons.mp member with rfl | later
      · exact ⟨d, List.mem_cons_self, rfl⟩
      · obtain ⟨d', inside, same⟩ := ih later
        exact ⟨d', List.mem_cons_of_mem _ inside, same⟩

/-! ## Moves that open documents as they have been read -/

/-- A move closes no document, and opens only one that is known by the address of its path. -/
def Move.Homely : Move → Prop
  | .opened d => d.AtHome
  | .closed _ => False
  | _ => True

/-- Every open document is kept under its address and known by the address of its path. -/
def Housed (e : Engine) : Prop := ∀ entry ∈ e.session.documents, entry.2.uri = entry.1 ∧ entry.2.AtHome

/-- Homely moves open documents, each of which is validated, and do nothing else to those that are
open. -/
theorem documents_after (registered : Registered e) (housed : Housed e) {m : Move} (homely : m.Homely) :
    ∃ ds : List Document, (∀ d ∈ ds, d.AtHome) ∧
      (e.after m).session.documents = ds.foldl (fun documents d => documents.put d.uri d) e.session.documents ∧
      (e.after m).validations.map (·.document) = e.validations.map (·.document) ++ ds := by
  have still {e' : Engine} (documents : e'.session.documents = e.session.documents)
      (validations : e'.validations.map (·.document) = e.validations.map (·.document)) :
      ∃ ds : List Document, (∀ d ∈ ds, d.AtHome) ∧
        e'.session.documents = ds.foldl (fun documents d => documents.put d.uri d) e.session.documents ∧
        e'.validations.map (·.document) = e.validations.map (·.document) ++ ds :=
    ⟨[], fun d member => absurd member List.not_mem_nil, documents, by rw [validations, List.append_nil]⟩
  cases m with
  | opened d =>
    obtain ⟨queue, events, _, opened⟩ := e.openDocument_eq d
    refine ⟨[d], fun d' member => by rw [List.mem_singleton.mp member]; exact homely, ?_, ?_⟩
    · simp only [after, opened]
      rfl
    · simp only [after, opened, List.map_append, calledOffAt_documents]
      rfl
  | closed uri => exact homely.elim
  | configured =>
    simp only [after]
    cases usable : e.reload.2 with
    | some f => exact still (by rw [configurationChanged_failed usable]) (by rw [configurationChanged_failed usable])
    | none =>
      obtain ⟨machine, store, events, _, same⟩ := e.renewed_eq
      have reread := configurationChanged_reread registered usable
      refine ⟨_, fun d' accepted => ?_, reread.documents.trans (by rw [same]; rfl),
        reread.triggered.trans (by rw [same]; rfl)⟩
      obtain ⟨h, member, became⟩ := List.mem_filterMap.mp accepted
      obtain ⟨d, opened, rfl⟩ := mem_handlings member
      obtain ⟨entry, inside, rfl⟩ := List.mem_map.mp opened
      exact handle_atHome (housed entry inside).2 became
  | shut => exact still (e.shutdown_framed).documents (e.shutdown_framed).validations
  | loaded path version =>
    obtain ⟨settings, same⟩ := e.load_keeps path version
    exact still (by simp only [after, same]; rfl) (by simp only [after, same]; rfl)
  | consulted d =>
    obtain ⟨settings, same⟩ := e.settingsFor_keeps d.uri d.path
    exact still (by simp only [after, same]; rfl) (by simp only [after, same]; rfl)
  | released n => exact still rfl rfl
  | turned k => exact still (e.turn_framed k).documents (e.turn_framed k).validations
  | moved machine => exact still rfl rfl

/-- What is remembered is what was shown last, documents are at home, and every set that was shown is
that of a document that is open. -/
structure Attended (e : Engine) : Prop where
  registered : Registered e
  displayed : Displayed e
  housed : Housed e
  opened : ∀ uri ds, (uri, ds) ∈ setsIn e.trace → e.IsOpen uri

theorem Attended.emit (attended : Attended e) {events : List Event} (quiet : setsIn events = []) :
    Attended (e.emit events) where
  registered := attended.registered.of_same rfl rfl
  displayed := attended.displayed.of_quiet ⟨events, rfl, quiet⟩ rfl rfl fun _ _ => id
  housed := attended.housed
  opened uri ds member := by
    rw [Engine.emit, setsIn_append, quiet, List.append_nil] at member
    exact attended.opened uri ds member

/-- A homely move keeps documents open and at home. -/
theorem Attended.after (attended : Attended e) {m : Move} (homely : m.Homely) : Attended (e.after m) := by
  obtain ⟨ds, home, documents, _⟩ := documents_after attended.registered attended.housed homely
  have stays {uri : String} (before : e.IsOpen uri) : (e.after m).IsOpen uri := by
    rw [IsOpen, documents]
    exact Keyed.isSome_foldl_put before
  obtain ⟨registered, displayed⟩ := displayed_invariant.after e m ⟨attended.registered, attended.displayed⟩
  refine ⟨registered, displayed, ?_, ?_⟩
  · intro entry member
    rw [documents] at member
    rcases Keyed.mem_foldl_put member with old | ⟨d, inside, rfl⟩
    · exact attended.housed entry old
    · exact ⟨rfl, home d inside⟩
  · intro uri ds' member
    rcases after_cases attended.registered m with
      ⟨_, ⟨events, grown, quiet⟩ | ⟨uri', rfl, _⟩⟩ | ⟨errand, d, p, p', shown, working⟩
    · rw [grown, setsIn_append, quiet, List.append_nil] at member
      exact stays (attended.opened uri ds' member)
    · exact homely.elim
    · obtain ⟨events, grown, sets⟩ := working.seen
      rw [grown, setsIn_append, sets, List.mem_append] at member
      rcases member with old | new
      · exact stays (attended.opened uri ds' old)
      · obtain ⟨_, _, same⟩ := List.mem_map.mp new
        cases same
        exact stays (working.isOpen attended.registered attended.displayed)

/-- A move adds to the trace. -/
theorem trace_after (registered : Registered e) (m : Move) : ∃ events, (e.after m).trace = e.trace ++ events := by
  rcases after_cases registered m with ⟨_, ⟨events, grown, _⟩ | ⟨uri, _, grown⟩⟩ | ⟨_, _, _, _, _, working⟩
  · exact ⟨events, grown⟩
  · exact ⟨_, grown⟩
  · obtain ⟨events, grown, _⟩ := working.seen
    exact ⟨events, grown⟩

theorem attended_create {machine : Machine} {host : Host} {folder : Path} {workspace : Option String} {e : Engine}
    (created : create machine host folder workspace = .ok e) : Attended e := by
  obtain ⟨_, _, _, session, quiet⟩ := create_eq created
  refine ⟨registered_create created, displayed_create created, ?_, ?_⟩
  · intro entry member
    rw [session] at member
    cases member
  · intro uri ds member
    rw [quiet] at member
    cases member

/-- The document that a set was shown for is open, and its address leads to its path. -/
theorem Attended.document (attended : Attended e) {uri : String} (opened : e.IsOpen uri) :
    ∃ d, e.session.documents.get? uri = some d ∧ d.AtHome ∧ d.uri = uri := by
  obtain ⟨d, found⟩ := Option.isSome_iff_exists.mp opened
  obtain ⟨address, home⟩ := attended.housed (uri, d) (Keyed.mem_of_get? found)
  exact ⟨d, found, home, address⟩

end Engine

end Diagnosis
