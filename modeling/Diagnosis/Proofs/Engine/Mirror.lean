import Diagnosis.Proofs.Engine.Freshness
import Diagnosis.Proofs.Engine.LastTrigger

/-!
# What the host has been shown

What is remembered of every address is what the host was shown last under it, and
there are sets and validations under way for open documents alone. Under an address
that has been closed nothing more is shown until it is opened again, but the empty
set of each further closing.
-/

namespace Diagnosis.Engine

/-! ## What is remembered, and of what -/

/-- What is remembered is what the host was shown last, and what is remembered or under way is that
of open documents. -/
structure Displayed (e : Engine) : Prop where
  unique : (Keyed.keys e.session.published).Nodup
  told : ∀ uri, e.session.diagnostics uri = (lastSet e.trace uri).getD []
  shown : ∀ uri ds, e.session.published.get? uri = some ds → e.IsOpen uri
  held : ∀ uri n, e.inflight.get? uri = some n → e.IsOpen uri

/-- A document that is not open has neither a set nor an entry in the registry. -/
theorem Displayed.of_closed {e : Engine} (displayed : Displayed e) {uri : String}
    (closed : e.session.documents.get? uri = none) :
    e.session.published.get? uri = none ∧ e.inflight.get? uri = none := by
  have shut : ¬ e.IsOpen uri := by simp [IsOpen, closed]
  refine ⟨Option.eq_none_iff_forall_not_mem.mpr fun ds shows => ?_,
    Option.eq_none_iff_forall_not_mem.mpr fun n held => ?_⟩
  · exact shut (displayed.shown uri ds shows)
  · exact shut (displayed.held uri n held)

/-- A set that is remembered under an address and is not empty is the last that was shown. -/
theorem Displayed.error_iff {e : Engine} (displayed : Displayed e) :
    e.session.anyErrors = true ↔ ∃ uri ds, lastSet e.trace uri = some ds ∧ hasError ds = true := by
  unfold Session.anyErrors
  rw [List.any_eq_true]
  constructor
  · rintro ⟨⟨uri, ds⟩, member, errors⟩
    have told := displayed.told uri
    rw [Session.diagnostics, Keyed.get?_of_mem displayed.unique member] at told
    cases last : lastSet e.trace uri with
    | none =>
      rw [last] at told
      change ds = [] at told
      subst told
      cases errors
    | some ds' =>
      rw [last] at told
      change ds = ds' at told
      subst told
      exact ⟨uri, ds, last, errors⟩
  · rintro ⟨uri, ds, last, errors⟩
    have told := displayed.told uri
    rw [last] at told
    change (e.session.published.get? uri).getD [] = ds at told
    cases shows : e.session.published.get? uri with
    | none =>
      rw [shows] at told
      subst told
      cases errors
    | some ds' =>
      rw [shows] at told
      change ds' = ds at told
      subst told
      exact ⟨(uri, ds'), Keyed.mem_of_get? shows, errors⟩

/-! ## Every move keeps it -/

theorem Displayed.of_quiet {e e' : Engine} (displayed : Displayed e) (quiet : Quiet e e')
    (published : e'.session.published = e.session.published)
    (documents : e'.session.documents = e.session.documents)
    (inflight : ∀ uri n, e'.inflight.get? uri = some n → e.inflight.get? uri = some n) : Displayed e' := by
  obtain ⟨events, grown, none⟩ := quiet
  constructor
  · rw [published]
    exact displayed.unique
  · intro uri
    rw [grown, lastSet_quiet none, Session.diagnostics, published]
    exact displayed.told uri
  · intro uri ds shows
    rw [IsOpen, documents]
    exact displayed.shown uri ds (published ▸ shows)
  · intro uri n held
    rw [IsOpen, documents]
    exact displayed.held uri n (inflight uri n held)

theorem Displayed.openDocument {e : Engine} (displayed : Displayed e) (d : Document) :
    Displayed (e.openDocument d).1 := by
  obtain ⟨queue, events, quiet, opened⟩ := e.openDocument_eq d
  rw [opened]
  have stays {uri : String} (before : e.IsOpen uri) : ((e.session.hold d).documents.get? uri).isSome = true := by
    by_cases here : uri = d.uri
    · subst here
      rw [Session.hold, Keyed.get?_put_self]
      rfl
    · rw [Session.hold, Keyed.get?_put_of_ne here]
      exact before
  constructor
  · exact displayed.unique
  · intro uri
    rw [lastSet_quiet (setsIn_of_noticesIn quiet)]
    exact displayed.told uri
  · exact fun uri ds shows => stays (displayed.shown uri ds shows)
  · intro uri n held
    by_cases here : uri = d.uri
    · subst here
      change ((e.session.documents.put d.uri d).get? d.uri).isSome = true
      rw [Keyed.get?_put_self]
      rfl
    · exact stays (displayed.held uri n ((Keyed.get?_put_of_ne here ..).symm.trans held))

theorem Displayed.closeDocument {e : Engine} (displayed : Displayed e) (uri : String) :
    Displayed (e.closeDocument uri).1 := by
  obtain ⟨queue, closed⟩ := e.closeDocument_eq uri
  rw [closed]
  have stays {other : String} (here : other ≠ uri) (before : e.IsOpen other) :
      ((e.session.close uri).documents.get? other).isSome = true := by
    rw [Session.close, Keyed.get?_erase_of_ne here]
    exact before
  have gone {α : Type} {m : Keyed α} {other : String} {a : α} (kept : (m.erase uri).get? other = some a) :
      other ≠ uri := by
    rintro rfl
    rw [Keyed.get?_erase_self] at kept
    cases kept
  constructor
  · exact Keyed.nodup_keys_erase displayed.unique uri
  · intro other
    have shown : setsIn [.notice (.publish uri [])] = [(uri, [])] := rfl
    rw [lastSet_single shown]
    change ((e.session.published.erase uri).get? other).getD [] = _
    by_cases here : uri = other
    · subst here
      rw [Keyed.get?_erase_self, if_pos rfl]
      rfl
    · rw [Keyed.get?_erase_of_ne (Ne.symm here), if_neg here]
      exact displayed.told other
  · exact fun other ds shows => stays (gone shows) (displayed.shown other ds (Keyed.get?_of_get?_erase shows))
  · exact fun other n held => stays (gone held) (displayed.held other n (Keyed.get?_of_get?_erase held))

/-- A turn enters nothing into the registry. -/
theorem inflight_turn {e : Engine} {k : Nat} {uri : String} {n : Nat}
    (held : (e.turn k).inflight.get? uri = some n) : e.inflight.get? uri = some n := by
  rcases e.turn_cases k with ⟨_, same⟩ | ⟨errand, e', _, same, turned⟩
  · rwa [same] at held
  · rw [same] at held
    cases turned with
    | idle => exact held
    | forgotten _ _ _ => exact Keyed.get?_of_get?_erase held
    | calledOff _ _ => exact held
    | worked _ _ _ worked =>
      rw [worked.inflight] at held
      exact held

/-- The document of a validation that goes on is open. -/
theorem Working.isOpen {e : Engine} (registered : Registered e) (displayed : Displayed e) {m : Move} {errand : Errand}
    {d : Document} {p p' : Phase} {shown : Option (List Diagnostic)} (working : Working e m errand d p p' shown) :
    e.IsOpen d.uri :=
  displayed.held _ _ (registered.live _ _ ⟨_, working.known, rfl, working.progress.unfinished false, rfl⟩)

theorem Displayed.turn {e : Engine} (displayed : Displayed e) (registered : Registered e) (k : Nat) :
    Displayed (e.turn k) := by
  rcases e.turn_works k with ⟨_, quiet, session⟩ | ⟨errand, d, p, p', shown, working⟩
  · exact displayed.of_quiet quiet (by rw [session]) (by rw [session]) fun _ _ => inflight_turn
  · have opened := working.isOpen registered displayed
    obtain ⟨events, grown, sets⟩ := working.seen
    have published := working.published
    have documents := working.documents
    simp only [after] at grown published documents
    cases shown with
    | none => exact displayed.of_quiet ⟨events, grown, sets⟩ published documents fun _ _ => inflight_turn
    | some ds =>
      constructor
      · rw [published]
        exact Keyed.nodup_keys_put displayed.unique d.uri ds
      · intro uri
        rw [grown, lastSet_single sets, Session.diagnostics, published, remembered]
        by_cases here : d.uri = uri
        · subst here
          rw [Keyed.get?_put_self, if_pos rfl]
        · rw [Keyed.get?_put_of_ne (Ne.symm here), if_neg here]
          exact displayed.told uri
      · intro uri ds' shows
        rw [IsOpen, documents]
        by_cases here : uri = d.uri
        · subst here
          exact opened
        · rw [published, remembered, Keyed.get?_put_of_ne here] at shows
          exact displayed.shown uri ds' shows
      · intro uri n held
        rw [IsOpen, documents]
        exact displayed.held uri n (inflight_turn held)

/-- Every move keeps what is remembered in step with what was shown. -/
theorem displayed_invariant : Invariant fun e => Registered e ∧ Displayed e where
  remembers e _ holds :=
    ⟨holds.1.of_same rfl rfl, holds.2.of_quiet (Quiet.refl e) rfl rfl fun _ _ => id⟩
  speaks _ events quiet holds :=
    ⟨holds.1.of_same rfl rfl, holds.2.of_quiet ⟨events, rfl, quiet⟩ rfl rfl fun _ _ => id⟩
  moves e _ _ holds :=
    ⟨holds.1.of_same rfl rfl, holds.2.of_quiet (Quiet.refl e) rfl rfl fun _ _ => id⟩
  opens _ d holds := ⟨holds.1.openDocument d, holds.2.openDocument d⟩
  queues e _ holds :=
    ⟨holds.1.of_same rfl rfl, holds.2.of_quiet (Quiet.refl e) rfl rfl fun _ _ => id⟩
  closes _ uri holds := ⟨holds.1.closeDocument uri, holds.2.closeDocument uri⟩
  turns _ k holds := ⟨holds.1.turn k, holds.2.turn holds.1 k⟩
  shuts e holds := by
    obtain ⟨silent, _, _⟩ := shutdown_silent holds.1
    refine ⟨holds.1.shutdown, holds.2.of_quiet silent.quiet ?_ ?_ ?_⟩
    · rw [silent.session]
    · rw [silent.session]
    · intro uri n held
      cases held

theorem displayed_create {machine : Machine} {host : Host} {folder : Path} {workspace : Option String} {e : Engine}
    (created : create machine host folder workspace = .ok e) : Displayed e := by
  obtain ⟨_, inflight, _, session, quiet⟩ := create_eq created
  constructor
  · rw [session]
    exact .nil
  · intro uri
    rw [session, lastSet, quiet]
    rfl
  · intro uri ds shows
    rw [session] at shows
    cases shows
  · intro uri n held
    rw [inflight] at held
    cases held

/-! ## Addresses that have been closed -/

/-- A move opens an address: a document under it is opened, or is what an open document is when it is
read anew. -/
def Opens (e : Engine) (uri : String) : Move → Prop
  | .opened d => d.uri = uri
  | .configured => e.reload.2 = none ∧ uri ∈ e.rereadUris
  | _ => False

/-- No move of a run opens an address. -/
def Unopened (e : Engine) (uri : String) : List Move → Prop
  | [] => True
  | m :: rest => ¬ e.Opens uri m ∧ (e.after m).Unopened uri rest

/-- Whether a move closes an address. -/
def Move.closes (uri : String) : Move → Bool
  | .closed other => other == uri
  | _ => false

/-- The sets that a run shows under an address. -/
def shownUnder (e : Engine) (uri : String) (moves : List Move) : List (List Diagnostic) :=
  ((e.publications moves).filter (·.2.1 == uri)).map (·.2.2)

theorem shownUnder_cons (e : Engine) (uri : String) (m : Move) (rest : List Move) :
    e.shownUnder uri (m :: rest) =
      ((e.sent m).filter (·.1 == uri)).map Prod.snd ++ (e.after m).shownUnder uri rest := by
  simp [shownUnder, publications, List.filter_map, Function.comp_def]

/-- A document that is not open is opened by no other move. -/
theorem unopened_after {e : Engine} (registered : Registered e) {uri : String}
    (closed : e.session.documents.get? uri = none) {m : Move} (unopened : ¬ e.Opens uri m) :
    (e.after m).session.documents.get? uri = none := by
  cases m with
  | opened d =>
    obtain ⟨queue, events, _, opened⟩ := e.openDocument_eq d
    simp only [after, opened, Session.hold]
    rw [Keyed.get?_put_of_ne fun same => unopened same.symm]
    exact closed
  | closed other =>
    obtain ⟨queue, same⟩ := e.closeDocument_eq other
    simp only [after, same, Session.close]
    refine Option.eq_none_iff_forall_not_mem.mpr fun d found => ?_
    rw [Option.mem_def] at found
    rw [Keyed.get?_of_get?_erase found] at closed
    cases closed
  | configured =>
    simp only [after]
    cases usable : e.reload.2 with
    | some f =>
      rw [configurationChanged_failed usable]
      exact closed
    | none =>
      obtain ⟨machine, store, events, _, same⟩ := e.renewed_eq
      rw [(configurationChanged_reread registered usable).documents,
        Keyed.get?_foldl_put_of_not_mem fun member => unopened ⟨usable, member⟩, same]
      exact closed
  | shut =>
    simp only [after]
    rw [(shutdown_silent registered).1.session]
    exact closed
  | loaded path version =>
    obtain ⟨settings, same⟩ := e.load_keeps path version
    simp only [after, same]
    exact closed
  | consulted d =>
    obtain ⟨settings, same⟩ := e.settingsFor_keeps d.uri d.path
    simp only [after, same]
    exact closed
  | released n => exact closed
  | moved machine => exact closed
  | turned k =>
    rcases e.turn_works k with ⟨_, _, session⟩ | ⟨_, _, _, _, _, working⟩
    · simp only [after]
      rw [session]
      exact closed
    · rw [working.documents]
      exact closed

theorem sent_closed (e : Engine) (uri : String) : e.sent (.closed uri) = [(uri, [])] := by
  obtain ⟨queue, same⟩ := e.closeDocument_eq uri
  have grown : (e.after (.closed uri)).trace = e.trace ++ [.notice (.publish uri [])] := by
    simp only [after, same]
  exact sent_of_grown grown

/-- Under the address of a document that is not open, a move shows nothing but the empty set of its
closing. -/
theorem sent_unopened {e : Engine} (registered : Registered e) (displayed : Displayed e) {uri : String}
    (closed : e.session.documents.get? uri = none) (m : Move) :
    ((e.sent m).filter (·.1 == uri)).map Prod.snd = if m.closes uri then [[]] else [] := by
  cases shuts : m.closes uri with
  | true =>
    cases m with
    | closed other =>
      rw [sent_closed]
      simp only [Move.closes, beq_iff_eq] at shuts
      simp [shuts]
    | _ => cases shuts
  | false =>
    rw [if_neg Bool.false_ne_true, List.map_eq_nil_iff, List.filter_eq_nil_iff]
    rintro ⟨other, ds⟩ member same
    rw [beq_iff_eq] at same
    change other = uri at same
    subst same
    rcases after_cases registered m with ⟨_, ⟨events, grown, quiet⟩ | ⟨_, rfl, _⟩⟩ | ⟨_, d, _, _, shown, working⟩
    · rw [sent_of_grown grown, quiet] at member
      cases member
    · rw [sent_closed, List.mem_singleton] at member
      cases member
      simp [Move.closes] at shuts
    · have opened := working.isOpen registered displayed
      rw [working.sent_eq.1] at member
      obtain ⟨_, _, address⟩ := List.mem_map.mp member
      cases address
      rw [IsOpen, closed] at opened
      cases opened

/-- Until a document is opened again, nothing more is shown under its address than the empty sets of
its closings, and nothing is remembered of it. -/
theorem unopened_run {e : Engine} (registered : Registered e) (displayed : Displayed e) {uri : String}
    (closed : e.session.documents.get? uri = none) {moves : List Move} (unopened : e.Unopened uri moves) :
    (e.run moves).session.documents.get? uri = none ∧
    e.shownUnder uri moves = List.replicate (moves.countP (Move.closes uri)) [] := by
  induction moves generalizing e with
  | nil => exact ⟨closed, rfl⟩
  | cons m rest ih =>
    obtain ⟨still, later⟩ := unopened
    obtain ⟨kept, mirrors⟩ := displayed_invariant.after e m ⟨registered, displayed⟩
    obtain ⟨stays, shown⟩ := ih kept mirrors (unopened_after registered closed still) later
    refine ⟨stays, ?_⟩
    rw [shownUnder_cons, sent_unopened registered displayed closed, shown, List.countP_cons]
    cases m.closes uri with
    | true => simp [List.replicate_succ]
    | false => simp

/-- In every run of an engine, what is remembered under each address is what the host was shown last,
sets are remembered of open documents alone, the registry has open documents alone, and the host has
been shown an error last under some address if and only if an error is remembered. Closing a document
shows the empty set, and from there until the address is opened again nothing is remembered under it,
and nothing shown but the empty set of each further closing. -/
theorem host_mirrors {machine : Machine} {host : Host} {folder : Path} {workspace : Option String} {e : Engine}
    (created : create machine host folder workspace = .ok e) (moves : List Move) :
    (∀ uri, (e.run moves).session.diagnostics uri = (lastSet (e.run moves).trace uri).getD []) ∧
    (∀ uri ds, (e.run moves).session.published.get? uri = some ds → (e.run moves).IsOpen uri) ∧
    (∀ uri n, (e.run moves).inflight.get? uri = some n → (e.run moves).IsOpen uri) ∧
    ((e.run moves).session.hasErrors none = true ↔
      ∃ uri ds, lastSet (e.run moves).trace uri = some ds ∧ hasError ds = true) ∧
    (∀ before uri later, moves = before ++ .closed uri :: later →
      (e.run before).sent (.closed uri) = [(uri, [])] ∧
      (((e.run before).after (.closed uri)).Unopened uri later →
        ((e.run before).after (.closed uri)).shownUnder uri later =
          List.replicate (later.countP (Move.closes uri)) [] ∧
        (e.run moves).session.documents.get? uri = none ∧
        (e.run moves).session.published.get? uri = none ∧
        (e.run moves).inflight.get? uri = none)) := by
  have kept (moves : List Move) : Registered (e.run moves) ∧ Displayed (e.run moves) :=
    displayed_invariant.run e moves ⟨registered_create created, displayed_create created⟩
  have displayed := (kept moves).2
  refine ⟨displayed.told, displayed.shown, displayed.held, displayed.error_iff, ?_⟩
  rintro before uri later rfl
  refine ⟨sent_closed _ uri, fun unopened => ?_⟩
  have closed : ((e.run before).after (.closed uri)).session.documents.get? uri = none := by
    obtain ⟨queue, same⟩ := (e.run before).closeDocument_eq uri
    simp only [after, same]
    exact Keyed.get?_erase_self ..
  obtain ⟨registered, mirrors⟩ := displayed_invariant.after _ (.closed uri) (kept before)
  obtain ⟨stays, shown⟩ := unopened_run registered mirrors closed unopened
  rw [← run_cons, ← run_append] at stays
  exact ⟨shown, stays, displayed.of_closed stays⟩

/-- A document is opened, validated as far as its compiler is held back, and closed twice. -/
def closedTwice : List Move :=
  [.opened (smallDocument 0), .turned 0, .closed "file:///a.c", .released 0, .turned 0, .closed "file:///a.c"]

theorem host_mirrors_closed_twice :
    ∃ e, create smallMachine .display ⟨"/", ["home"]⟩ none = .ok e ∧
      let held := e.run [.opened (smallDocument 0), .turned 0]
      let later := [.released 0, .turned 0, .closed "file:///a.c"]
      held.inflight.get? "file:///a.c" = some 0 ∧
      (held.after (.closed "file:///a.c")).shownUnder "file:///a.c" later = [[]] ∧
      (e.run closedTwice).inflight.get? "file:///a.c" = none := by
  have checked : (create smallMachine .display ⟨"/", ["home"]⟩ none).toOption.any (fun e =>
      (e.run [.opened (smallDocument 0), .turned 0]).inflight.get? "file:///a.c" = some 0) = true := by
    decide +kernel
  obtain ⟨e, created, holds⟩ := exists_ok_of_any checked
  have closing := (host_mirrors created closedTwice).2.2.2.2
    [.opened (smallDocument 0), .turned 0] "file:///a.c" [.released 0, .turned 0, .closed "file:///a.c"] rfl
  obtain ⟨shown, _, _, free⟩ := closing.2 ⟨id, id, id, trivial⟩
  exact ⟨e, created, of_decide_eq_true holds, shown, free⟩

/-- A document that is closed already is closed again: the host is shown another empty set, although
nothing has been opened in between. -/
theorem closing_again_shows :
    ∃ e, create smallMachine .display ⟨"/", ["home"]⟩ none = .ok e ∧
      let closed := (e.run [.opened (smallDocument 0)]).after (.closed "file:///a.c")
      closed.Unopened "file:///a.c" [.closed "file:///a.c"] ∧
      closed.shownUnder "file:///a.c" [.closed "file:///a.c"] ≠ [] := by
  have checked : (create smallMachine .display ⟨"/", ["home"]⟩ none).toOption.any (fun _ => true) = true := by
    decide +kernel
  obtain ⟨e, created, _⟩ := exists_ok_of_any checked
  refine ⟨e, created, ⟨id, trivial⟩, ?_⟩
  rw [shownUnder_cons, sent_closed]
  simp

end Diagnosis.Engine
