import Diagnosis.Proofs.Engine.Pass

/-!
# What a turn does

The errand that has its turn may find nothing left to do; it may make the registry
forget a validation, end one that has been called off, or take a pass further.
-/

namespace Diagnosis

/-- The validation that an errand is for. -/
def Errand.number : Errand → Nat
  | .start n | .resume n | .forget n => n

namespace Engine

theorem step_eq_turn (e : Engine) : e.step = e.turn 0 := by
  unfold step turn
  cases e.queue <;> rfl

/-- How a turn takes a pass over a document from one phase to another, and what set it shows. -/
inductive Progress (e : Engine) (d : Document) : Errand → Phase → Phase → Option (List Diagnostic) → Prop where
  /-- There are no settings for the document. -/
  | unsettled {n : Nat} {f : Failure} (found : (e.settingsFor d.uri d.path).2 = .error f) :
      Progress e d (.start n) .created (.finished .failed) none
  /-- The whole pass is done in one turn. -/
  | whole {n : Nat} {s : Settings} {o : Outcome} (found : (e.settingsFor d.uri d.path).2 = .ok s) :
      Progress e d (.start n) .created (.finished o)
        (setOf d s (Compiler.run e.machine.toolchain s d.path e.workspace).2)
  /-- The compiler has been begun, and its answer has to be waited for. -/
  | begun {n : Nat} {s : Settings} {reply : Reply} (found : (e.settingsFor d.uri d.path).2 = .ok s)
      (answer : (Compiler.begin e.machine.toolchain s d.path e.workspace).2 = .ok reply) :
      Progress e d (.start n) .created (.compiling s reply) none
  /-- The answer has come. -/
  | answered {n : Nat} {s : Settings} {reply : Reply} {o : Outcome} :
      Progress e d (.resume n) (.compiling s reply) (.finished o)
        (setOf d s (Compiler.conclude s.command reply.output).2)

/-- What an errand leaves of an engine. -/
inductive Turned (e : Engine) (errand : Errand) : Engine → Prop where
  | idle : Turned e errand e
  | forgotten {v : Validation} (known : e.validations[errand.number]? = some v) (ended : v.isDone = true)
      (held : e.inflight.get? v.document.uri = some errand.number) :
      Turned e errand { e with inflight := e.inflight.erase v.document.uri }
  | calledOff {d : Document} {p : Phase} {files : List String}
      (known : e.validations[errand.number]? = some ⟨d, p, true⟩) (unended : ∀ o, p ≠ .finished o) :
      Turned e errand ((e.emit (files.map .kill)).finish errand.number .cancelled)
  | worked {e' : Engine} {d : Document} {p p' : Phase} {shown : Option (List Diagnostic)} {settings : Keyed Settings}
      (known : e.validations[errand.number]? = some ⟨d, p, false⟩) (progress : Progress e d errand p p' shown)
      (found : settings = e.session.settings ∨
        ∃ s, e.settingsNow d.path = .ok s ∧ settings = e.session.settings.put d.uri s)
      (worked : Worked (e.withSession { e.session with settings }) e' errand.number d p' shown) :
      Turned e errand e'

theorem Progress.unfinished {e : Engine} {d : Document} {errand : Errand} {p p' : Phase} {shown : Option (List Diagnostic)}
    (progress : Progress e d errand p p' shown) (cancelled : Bool) :
    (⟨d, p, cancelled⟩ : Validation).isDone = false := by
  cases progress <;> rfl

theorem start_turned (e : Engine) (n : Nat) : Turned e (.start n) (e.start n) := by
  cases known : e.validations[n]? with
  | none => rw [start, known]; exact .idle
  | some v =>
    obtain ⟨d, p, cancelled⟩ := v
    cases p with
    | compiling s reply => rw [start, known]; exact .idle
    | finished o => rw [start, known]; exact .idle
    | created =>
      cases cancelled with
      | true =>
        have stopped : e.start n = (e.emit (([] : List String).map .kill)).finish n .cancelled := by
          simp [start, known, emit]
        have here : e.validations[(Errand.start n).number]? = some ⟨d, .created, true⟩ := known
        rw [stopped]
        exact .calledOff here (by simp)
      | false =>
        have found : ∃ settings : Keyed Settings,
            (e.settingsFor d.uri d.path).1 = e.withSession { e.session with settings } ∧
            (settings = e.session.settings ∨
              ∃ s, e.settingsNow d.path = .ok s ∧ settings = e.session.settings.put d.uri s) := by
          rcases e.settingsFor_cases d.uri d.path with ⟨s, _, same⟩ | ⟨f, _, same⟩ | ⟨s, now, same⟩
          · exact ⟨e.session.settings, by rw [same]; rfl, .inl rfl⟩
          · exact ⟨e.session.settings, by rw [same]; rfl, .inl rfl⟩
          · exact ⟨e.session.settings.put d.uri s, by rw [same]; rfl, .inr ⟨s, now, rfl⟩⟩
        obtain ⟨settings, kept, origin⟩ := found
        have works := start_worked known
        rw [kept] at works
        rcases works with ⟨f, found, worked⟩ | ⟨s, found, ⟨o, worked⟩ | ⟨reply, begun, worked⟩⟩
        · exact .worked known (.unsettled found) origin worked
        · exact .worked known (.whole found) origin worked
        · exact .worked known (.begun found begun) origin worked

theorem resume_turned (e : Engine) (n : Nat) : Turned e (.resume n) (e.resume n) := by
  cases known : e.validations[n]? with
  | none => rw [resume, known]; exact .idle
  | some v =>
    obtain ⟨d, p, cancelled⟩ := v
    cases p with
    | created => rw [resume, known]; exact .idle
    | finished o => rw [resume, known]; exact .idle
    | compiling s reply =>
      cases cancelled with
      | true =>
        have stopped : e.resume n =
            (e.emit ((if reply.exited then [] else [d.name]).map .kill)).finish n .cancelled := by
          simp only [resume, known, ↓reduceIte]
          cases reply.exited <;> rfl
        have here : e.validations[(Errand.resume n).number]? = some ⟨d, .compiling s reply, true⟩ := known
        rw [stopped]
        exact .calledOff here (by simp)
      | false =>
        obtain ⟨o, worked⟩ := e.conclude_worked n d s reply
        have goesOn : e.resume n = e.conclude n d s reply := by rw [resume, known]; rfl
        rw [goesOn]
        exact .worked known .answered (.inl rfl) worked

theorem forget_turned (e : Engine) (n : Nat) : Turned e (.forget n) (e.forget n) := by
  cases known : e.validations[n]? with
  | none => rw [forget, known]; exact .idle
  | some v =>
    have here : e.validations[(Errand.forget n).number]? = some v := known
    simp only [forget, known]
    split
    · rename_i both
      simp only [Bool.and_eq_true, beq_iff_eq] at both
      exact .forgotten here both.1 both.2
    · exact .idle

theorem perform_turned (e : Engine) (errand : Errand) : Turned e errand (e.perform errand) := by
  cases errand with
  | start n => exact e.start_turned n
  | resume n => exact e.resume_turned n
  | forget n => exact e.forget_turned n

/-- A turn is that of no errand, and then changes nothing, or that of the errand at its place. -/
theorem turn_cases (e : Engine) (k : Nat) :
    (e.queue[k]? = none ∧ e.turn k = e) ∨
    ∃ errand e', e.queue[k]? = some errand ∧ e.turn k = e' ∧
      Turned { e with queue := e.queue.eraseIdx k } errand e' := by
  unfold turn
  cases e.queue[k]? with
  | none => exact .inl ⟨rfl, rfl⟩
  | some errand => exact .inr ⟨errand, _, rfl, rfl, perform_turned _ errand⟩

end Engine

end Diagnosis
