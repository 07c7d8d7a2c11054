import Diagnosis.Proofs.Engine.Reread
import Diagnosis.Proofs.Engine.Supersession

/-!
# Freshness after a change of the configuration

After a change of the configuration, what is published was computed with settings
that have been in force since, but for one thing: a validation that waits for its
compiler goes on with its old settings if no document under its address could be
read anew.
-/

namespace Diagnosis.Engine

/-! ## Settings since the beginning of a run -/

/-- Settings have been in force for some file at some time of a run. -/
def InForce (e : Engine) (moves : List Move) (s : Settings) : Prop :=
  ∃ first path, first <+: moves ∧ (e.run first).settingsNow path = .ok s

theorem InForce.concat {e : Engine} {moves : List Move} {s : Settings} (force : InForce e moves s) (m : Move) :
    InForce e (moves ++ [m]) s := by
  obtain ⟨first, path, early, found⟩ := force
  exact ⟨first, path, early.trans (List.prefix_append ..), found⟩

/-- What is remembered when settings are looked up was remembered before, or has just been found. -/
theorem settingsFor_remembers {e : Engine} {uri path other : String} {s : Settings}
    (kept : (e.settingsFor uri path).1.session.settings.get? other = some s) :
    e.session.settings.get? other = some s ∨ e.settingsNow path = .ok s := by
  rcases e.settingsFor_cases uri path with ⟨s', _, same⟩ | ⟨f, _, same⟩ | ⟨s', found, same⟩
  · rw [same] at kept
    exact .inl kept
  · rw [same] at kept
    exact .inl kept
  · rw [same] at kept
    by_cases here : other = uri
    · subst here
      have value : some s' = some s := (Keyed.get?_put_self ..).symm.trans kept
      cases value
      exact .inr found
    · exact .inl ((Keyed.get?_put_of_ne here ..).symm.trans kept)

theorem load_remembers {e : Engine} {path other : String} {version : Int} {s : Settings}
    (kept : (e.load path version).1.session.settings.get? other = some s) :
    e.session.settings.get? other = some s ∨ e.settingsNow path = .ok s := by
  unfold load at kept
  cases resolved : e.machine.tree.resolve e.machine.directory path with
  | error f =>
    rw [resolved] at kept
    exact .inl kept
  | ok p =>
    rw [resolved] at kept
    have looked : (e.settingsFor (Uri.ofPath p.text) path).1.session.settings.get? other = some s := by
      dsimp only at kept
      split at kept <;> rename_i found <;> rw [found] <;> exact kept
    exact settingsFor_remembers looked

/-- Settings that are remembered after a move were remembered before, or are found in it. -/
theorem after_remembers {e : Engine} (registered : Registered e) (m : Move) {uri : String} {s : Settings}
    (kept : (e.after m).session.settings.get? uri = some s) :
    e.session.settings.get? uri = some s ∨ (∃ path, e.settingsNow path = .ok s) ∨
      ∃ path, (e.after m).settingsNow path = .ok s := by
  cases m with
  | opened d =>
    obtain ⟨queue, events, _, opened⟩ := e.openDocument_eq d
    simp only [after, opened] at kept
    exact .inl kept
  | closed uri' =>
    obtain ⟨queue, closed⟩ := e.closeDocument_eq uri'
    simp only [after, closed] at kept
    exact .inl (Keyed.get?_of_get?_erase kept)
  | configured =>
    cases failed : e.reload.2 with
    | some f =>
      simp only [after, configurationChanged_failed failed] at kept
      exact .inl kept
    | none =>
      obtain ⟨path, _, _, _, found⟩ := (configurationChanged_reread registered failed).coherent uri s kept
      exact .inr (.inr ⟨path, found⟩)
  | shut =>
    simp only [after, (shutdown_silent registered).1.session] at kept
    exact .inl kept
  | loaded path version => exact (load_remembers kept).imp_right fun found => .inl ⟨path, found⟩
  | consulted d => exact (settingsFor_remembers kept).imp_right fun found => .inl ⟨d.path, found⟩
  | released n => exact .inl kept
  | moved machine => exact .inl kept
  | turned k =>
    simp only [after] at kept
    rcases e.turn_cases k with ⟨_, same⟩ | ⟨errand, e', queued, same, turned⟩
    · rw [same] at kept
      exact .inl kept
    · rw [same] at kept
      cases turned with
      | idle => exact .inl kept
      | forgotten _ _ _ => exact .inl kept
      | calledOff _ _ => exact .inl kept
      | @worked _ d p p' shown settings _ _ found worked =>
        rw [worked.settings] at kept
        change settings.get? uri = some s at kept
        rcases found with old | ⟨s', found, new⟩
        · subst old
          exact .inl kept
        · subst new
          by_cases here : uri = d.uri
          · subst here
            rw [Keyed.get?_put_self] at kept
            cases kept
            exact .inr (.inl ⟨d.path, found⟩)
          · rw [Keyed.get?_put_of_ne here] at kept
            exact .inl kept

/-- If settings that are remembered at first are in force then, all that are remembered later have
been in force. -/
theorem remembered_inForce {e : Engine} (registered : Registered e) (coherent : Coherent e) (moves : List Move)
    {uri : String} {s : Settings} (kept : (e.run moves).session.settings.get? uri = some s) : InForce e moves s := by
  induction moves using List.reverseRecOn generalizing uri s with
  | nil =>
    obtain ⟨path, _, _, _, found⟩ := coherent uri s kept
    exact ⟨[], path, List.prefix_rfl, found⟩
  | append_singleton moves m ih =>
    rw [run_concat] at kept
    rcases after_remembers (registered.run moves) m kept with old | ⟨path, found⟩ | ⟨path, found⟩
    · exact (ih old).concat m
    · exact ⟨moves, path, List.prefix_append .., found⟩
    · rw [← run_concat] at found
      exact ⟨moves ++ [m], path, List.prefix_rfl, found⟩

/-! ## What is fresh, and what is overlooked -/

/-- A set is that of a validation that starts in a run, with settings that have been in force in it. -/
def Fresh (e : Engine) (moves : List Move) (n : Nat) (uri : String) (ds : List Diagnostic) : Prop :=
  ∃ d s x, d.uri = uri ∧ Started e moves n d s x ∧ InForce e moves s ∧
    setOf d s (Compiler.run x.machine.toolchain s d.path x.workspace).2 = some ds

/-- The addresses of the documents that are validated after a change of the configuration. -/
def rereadUris (e : Engine) : List String :=
  ((e.renewed.handlings e.openDocuments).filterMap Handling.accepted?).map (·.uri)

/-- A change of the configuration overlooks a validation: it waits for its compiler, whose output
makes a set, and no document under its address is validated. -/
def Overlooked (e : Engine) (n : Nat) (uri : String) (ds : List Diagnostic) : Prop :=
  ∃ d s reply, e.validations[n]? = some ⟨d, .compiling s reply, false⟩ ∧ d.uri = uri ∧
    setOf d s (Compiler.conclude s.command reply.output).2 = some ds ∧ uri ∉ e.rereadUris

theorem started_inForce {e : Engine} (registered : Registered e) (coherent : Coherent e) {moves : List Move} {n : Nat}
    {d : Document} {s : Settings} {x : Engine} (started : Started e moves n d s x) : InForce e moves s := by
  obtain ⟨before, k, later, rfl, rfl, _, _, found⟩ := started
  rw [settingsFor_result] at found
  cases kept : (e.run before).session.settings.get? d.uri with
  | some s' =>
    rw [kept] at found
    cases found
    obtain ⟨first, path, early, now⟩ := remembered_inForce registered coherent before kept
    exact ⟨first, path, early.trans (List.prefix_append ..), now⟩
  | none =>
    rw [kept] at found
    exact ⟨before, d.path, List.prefix_append .., found⟩

/-- A validation goes on after a change of the configuration if and only if no document under its
address is validated. -/
theorem spared_iff {e : Engine} (registered : Registered e) (usable : e.reload.2 = none) {n : Nat} {d : Document}
    {p : Phase} (undone : (⟨d, p, false⟩ : Validation).isDone = false)
    (known : e.validations[n]? = some ⟨d, p, false⟩) :
    e.configurationChanged.1.validations[n]? = some ⟨d, p, false⟩ ↔ d.uri ∉ e.rereadUris := by
  have reread := configurationChanged_reread registered usable
  obtain ⟨machine, store, events, _, same⟩ := e.renewed_eq
  have old : e.renewed.validations = e.validations := by rw [same]; rfl
  constructor
  · intro spared member
    obtain ⟨a, accepted, address⟩ := List.mem_map.mp member
    obtain ⟨i, inside⟩ := List.getElem?_of_mem accepted
    have triggered : (e.configurationChanged.1.validations.map (·.document))[e.validations.length + i]? = some a := by
      rw [reread.triggered, old, List.getElem?_append_right (by simp), List.length_map, Nat.add_sub_cancel_left, inside]
    rw [List.getElem?_map, Option.map_eq_some_iff] at triggered
    obtain ⟨w, later, document⟩ := triggered
    have early := (List.getElem?_eq_some_iff.mp known).1
    exact Validation.not_settled undone rfl
      (reread.registered.outdated spared later (by rw [document, address]) (by omega))
  · intro other
    exact reread.spared n _ (old ▸ known) other

theorem uncalled_before {e e' : Engine} (keeps : Keeps e e') {n : Nat} {v v' : Validation}
    (known : e.validations[n]? = some v) (found : e'.validations[n]? = some v') (uncalled : v'.cancelled = false) :
    v.cancelled = false := by
  obtain ⟨w, last, ages⟩ := keeps n v known
  rw [found, Option.some.injEq] at last
  subst last
  cases called : v.cancelled with
  | false => rfl
  | true =>
    rw [ages.called called] at uncalled
    cases uncalled

/-- After a change of the configuration, every set that a validation shows is fresh, or its
validation has been overlooked. -/
theorem fresh_or_overlooked {e : Engine} (registered : Registered e) (usable : e.reload.2 = none) {moves : List Move}
    {n : Nat} {uri : String} {ds : List Diagnostic}
    (member : (some n, uri, ds) ∈ (e.after .configured).publications moves) :
    Fresh (e.after .configured) moves n uri ds ∨ Overlooked e n uri ds := by
  have reread := configurationChanged_reread registered usable
  have after := reread.registered
  obtain ⟨v, known, address, _, uncalled, ⟨s, x, started, set⟩ | ⟨w, s, reply, before, document, phase, set⟩⟩ :=
    publication_accounted after moves member
  · exact .inl ⟨v.document, s, x, address, started, started_inForce after reread.coherent started, set⟩
  · obtain ⟨d, p, called⟩ := w
    change d = v.document at document
    change p = .compiling s reply at phase
    subst document phase
    have waits := uncalled_before (after.keeps moves) before known uncalled
    subst waits
    have rested := ((resting_stable e).configurationChanged e ⟨.refl e, .refl e⟩).1 n _ before
    rcases rested with created | cancelled | ⟨⟨d', p', called'⟩, old, same, still⟩
    · cases created
    · cases cancelled
    · change v.document = d' at same
      change Phase.compiling s reply = p' at still
      subst same still
      have waited := uncalled_before (registered.keeps [.configured]) old before rfl
      subst waited
      exact .inr ⟨v.document, s, reply, old, address, set, address ▸ (spared_iff registered usable rfl old).mp before⟩

/-- A validation that waits for its compiler shows its set when the output is let through. -/
theorem waiting_shows {e : Engine} {n : Nat} {d : Document} {s : Settings} {reply : Reply} {ds : List Diagnostic}
    (known : e.validations[n]? = some ⟨d, .compiling s reply, false⟩)
    (set : setOf d s (Compiler.conclude s.command reply.output).2 = some ds) :
    ∃ k, (some n, d.uri, ds) ∈ e.publications [.released n, .turned k] := by
  obtain ⟨k, queued⟩ := List.getElem?_of_mem (resume_mem_release known)
  have goesOn : (e.release n).turn k =
      ({ e.release n with queue := (e.release n).queue.eraseIdx k } : Engine).conclude n d s reply := by
    rw [turn, queued]
    dsimp only [perform]
    unfold resume
    rw [show (e.release n).validations[n]? = some ⟨d, .compiling s reply, false⟩ from known]
    rfl
  obtain ⟨o, worked⟩ :=
    conclude_worked { e.release n with queue := (e.release n).queue.eraseIdx k } n d s reply
  obtain ⟨events, grown, sets⟩ := worked.seen
  rw [← goesOn] at grown
  have shows : (e.release n).sent (.turned k) = [(d.uri, ds)] := by
    rw [sent_of_grown (m := .turned k) grown, sets, set]
    rfl
  have authored : (e.release n).author (.turned k) = some n := by
    rw [author, queued]
    rfl
  refine ⟨k, ?_⟩
  have last : e.publications [.released n, .turned k] =
      (e.sent (.released n)).map (e.author (.released n), ·) ++
        (((e.release n).sent (.turned k)).map ((e.release n).author (.turned k), ·) ++ []) := rfl
  rw [last, shows, authored]
  simp

/-- A validation that has been overlooked shows a set that is not fresh, when the output of its
compiler is let through. -/
theorem overlooked_shows {e : Engine} (registered : Registered e) (usable : e.reload.2 = none) {n : Nat} {uri : String}
    {ds : List Diagnostic} (overlooked : Overlooked e n uri ds) :
    ∃ moves, (some n, uri, ds) ∈ (e.after .configured).publications moves ∧
      ¬ Fresh (e.after .configured) moves n uri ds := by
  obtain ⟨d, s, reply, known, rfl, set, other⟩ := overlooked
  have spared := (spared_iff registered usable rfl known).mpr other
  obtain ⟨k, shown⟩ := waiting_shows spared set
  refine ⟨_, shown, ?_⟩
  rintro ⟨d', s', x, _, ⟨before, k', later, moves, rfl, _, created, _⟩, _, _⟩
  -- the turn is the second move, and the validation waits for its compiler before it
  cases before with
  | nil => cases moves
  | cons m rest =>
    cases rest with
    | nil =>
      cases moves
      have waits : (e.after .configured).validations[n]? = some ⟨d', .created, false⟩ := created
      have both := spared.symm.trans waits
      cases both
    | cons m' rest' =>
      have short := congrArg List.length moves
      simp only [List.length_cons, List.length_append, List.length_nil] at short
      omega

/-- In every run of an engine, a change of the configuration that fails to read the settings of the
user changes nothing at all. After any other, every set that a validation shows is fresh, or its
validation has been overlooked; and each that has been overlooked goes on to show its set, which is
not fresh, when the output of its compiler is let through. -/
theorem configuration_change_fresh {machine : Machine} {host : Host} {folder : Path} {workspace : Option String}
    {e : Engine} (created : create machine host folder workspace = .ok e) (moves : List Move) :
    (∀ f, (e.run moves).reload.2 = some f → (e.run moves).after .configured = e.run moves) ∧
    ((e.run moves).reload.2 = none →
      (∀ later n uri ds, (some n, uri, ds) ∈ ((e.run moves).after .configured).publications later →
        Fresh ((e.run moves).after .configured) later n uri ds ∨ Overlooked (e.run moves) n uri ds) ∧
      (∀ n uri ds, Overlooked (e.run moves) n uri ds →
        ∃ later, (some n, uri, ds) ∈ ((e.run moves).after .configured).publications later ∧
          ¬ Fresh ((e.run moves).after .configured) later n uri ds)) := by
  have registered := (registered_create created).run moves
  constructor
  · intro f failed
    rw [after, configurationChanged_failed failed]
  · intro usable
    exact ⟨fun later n uri ds => fresh_or_overlooked registered usable,
      fun n uri ds => overlooked_shows registered usable⟩

/-- While the compiler of the small machine is held back, an encoding is set that makes no text. -/
def spoiltWhileHeld : List Move := [.opened (smallDocument 0), .turned 0, .moved (spoiltMachine "rot13")]

theorem configuration_change_fresh_spoilt :
    ∃ e, create smallMachine .display ⟨"/", ["home"]⟩ none = .ok e ∧ ∃ later,
      (some 0, "file:///a.c", smallSet) ∈ ((e.run spoiltWhileHeld).after .configured).publications later ∧
      ¬ Fresh ((e.run spoiltWhileHeld).after .configured) later 0 "file:///a.c" smallSet := by
  have checked : (create smallMachine .display ⟨"/", ["home"]⟩ none).toOption.any (fun e =>
      (e.run spoiltWhileHeld).reload.2 = none ∧ (e.run spoiltWhileHeld).rereadUris = [] ∧
      (e.run spoiltWhileHeld).validations = [⟨smallDocument 0, .compiling {} smallReply, false⟩] ∧
      setOf (smallDocument 0) {} (Compiler.conclude "gcc" smallReply.output).2 = some smallSet) = true := by
    decide +kernel
  obtain ⟨e, created, holds⟩ := exists_ok_of_any checked
  obtain ⟨usable, reread, validations, set⟩ := of_decide_eq_true holds
  refine ⟨e, created, ((configuration_change_fresh created spoiltWhileHeld).2 usable).2 0 _ _ ?_⟩
  refine ⟨smallDocument 0, {}, smallReply, ?_, rfl, set, ?_⟩
  · rw [validations]
    rfl
  · rw [reread]
    exact List.not_mem_nil

end Diagnosis.Engine
