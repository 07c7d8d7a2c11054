import Diagnosis.Proofs.Engine.Turn

/-!
# Settings that are remembered

Nothing that an engine does looks at the settings that it remembers, but for looking
settings up. So an engine that remembers others does the same, wherever the look-ups
agree.
-/

namespace Diagnosis.Engine

/-- An engine that remembers other settings. -/
def remembering (e : Engine) (settings : Keyed Settings) : Engine := e.withSession { e.session with settings }

/-- An engine that remembers no settings. -/
def forgetful (e : Engine) : Engine := e.remembering []

section

variable (e : Engine) (settings other : Keyed Settings)

@[simp] theorem remembering_machine : (e.remembering settings).machine = e.machine := rfl
@[simp] theorem remembering_host : (e.remembering settings).host = e.host := rfl
@[simp] theorem remembering_workspace : (e.remembering settings).workspace = e.workspace := rfl
@[simp] theorem remembering_store : (e.remembering settings).store = e.store := rfl
@[simp] theorem remembering_validations : (e.remembering settings).validations = e.validations := rfl
@[simp] theorem remembering_inflight : (e.remembering settings).inflight = e.inflight := rfl
@[simp] theorem remembering_queue : (e.remembering settings).queue = e.queue := rfl

@[simp] theorem forgetful_remembering : (e.remembering settings).forgetful = e.forgetful := rfl

theorem forgetful_eq {e e' : Engine} {settings : Keyed Settings} (same : e' = e.remembering settings) :
    e.forgetful = e'.forgetful := by
  rw [same, forgetful_remembering]

/-! ## Triggers -/

theorem cancel_remembering (n : Nat) : (e.remembering settings).cancel n = (e.cancel n).remembering settings := by
  unfold cancel
  rw [remembering_validations, remembering_queue]
  split
  · rfl
  · split <;> rfl
  · rfl

theorem supersede_remembering (uri : String) :
    (e.remembering settings).supersede uri = (e.supersede uri).remembering settings := by
  unfold supersede isDone
  rw [remembering_validations, remembering_inflight]
  split
  · rename_i n _
    split
    · rfl
    · exact cancel_remembering (e.log .debug ("Superseding in-flight validation of " ++ uri)) settings n
  · rfl

theorem openDocument_remembering (d : Document) :
    (e.remembering settings).openDocument d =
      ((e.openDocument d).1.remembering settings, (e.openDocument d).2) := by
  have superseded := (e.withSession (e.session.hold d)).supersede_remembering settings d.uri
  unfold openDocument schedule
  rw [show (e.remembering settings).withSession ((e.remembering settings).session.hold d) =
    (e.withSession (e.session.hold d)).remembering settings from rfl, superseded]
  rfl

theorem closeDocument_remembering (uri : String) :
    (e.remembering settings).closeDocument uri =
      ((e.closeDocument uri).1.remembering (settings.erase uri), (e.closeDocument uri).2) := by
  unfold closeDocument
  rw [remembering_inflight]
  cases e.inflight.get? uri with
  | none => rfl
  | some n =>
    have asked := cancel_remembering { e with inflight := e.inflight.erase uri } settings n
    exact congrArg (fun x : Engine =>
      ((x.withSession (x.session.close uri)).tell (.publish uri []), x.host.refusal? uri [])) asked

theorem reload_remembering :
    (e.remembering settings).reload = (e.reload.1.remembering settings, e.reload.2) := by
  unfold reload
  rw [remembering_machine, remembering_store]
  split <;> rfl

theorem accept_remembering (d : Document) :
    revalidate.accept (e.remembering settings) d =
      ((revalidate.accept e d).1.remembering settings, (revalidate.accept e d).2) := by
  unfold revalidate.accept
  rw [openDocument_remembering]

/-! ## Passes -/

theorem publish_remembering (uri : String) (ds : List Diagnostic) (s : Settings) :
    (e.remembering settings).publish uri ds s =
      ((e.publish uri ds s).1.remembering settings, (e.publish uri ds s).2) := by
  unfold publish
  dsimp only
  split <;> rfl

theorem reportFailure_remembering (path : String) (f : Failure) :
    (e.remembering settings).reportFailure path f = (e.reportFailure path f).remembering settings := by
  cases f <;> rfl

theorem fail_remembering (n : Nat) (d : Document) (f : Failure) :
    (e.remembering settings).fail n d f = (e.fail n d f).remembering settings := by
  rw [fail, reportFailure_remembering]
  rfl

theorem clear_remembering (n : Nat) (d : Document) (s : Settings) (f : EngineError) :
    (e.remembering settings).clear n d s f = (e.clear n d s f).remembering settings := by
  unfold clear
  rw [show (e.remembering settings).report f = (e.report f).remembering settings from rfl, publish_remembering]
  obtain ⟨x, shown, refusal⟩ := (e.report f).publish d.uri [] s
  cases refusal <;> rfl

theorem stopRun_remembering (n : Nat) (d : Document) (s : Settings) (f : Failure) :
    (e.remembering settings).stopRun n d s f = (e.stopRun n d s f).remembering settings := by
  unfold stopRun
  split
  · exact clear_remembering ..
  · exact fail_remembering ..

theorem conclude_remembering (n : Nat) (d : Document) (s : Settings) (reply : Reply) :
    (e.remembering settings).conclude n d s reply = (e.conclude n d s reply).remembering settings := by
  unfold conclude
  dsimp only
  rw [show (e.remembering settings).emit [(Compiler.conclude s.command reply.output).1] =
    (e.emit [(Compiler.conclude s.command reply.output).1]).remembering settings from rfl]
  split
  · exact stopRun_remembering ..
  · split
    · exact fail_remembering ..
    · rename_i r _
      rw [show ((e.emit [(Compiler.conclude s.command reply.output).1]).remembering settings).mentionRest d.name r =
        ((e.emit [(Compiler.conclude s.command reply.output).1]).mentionRest d.name r).remembering settings from rfl,
        publish_remembering]
      obtain ⟨x, shown, refusal⟩ :=
        ((e.emit [(Compiler.conclude s.command reply.output).1]).mentionRest d.name r).publish d.uri r.diagnostics s
      cases refusal <;> rfl

theorem compile_remembering (n : Nat) (d : Document) (s : Settings) :
    (e.remembering settings).compile n d s = (e.compile n d s).remembering settings := by
  unfold compile
  rw [remembering_machine, remembering_workspace]
  generalize Compiler.begin e.machine.toolchain s d.path e.workspace = begun
  obtain ⟨events, f | reply⟩ := begun
  · exact stopRun_remembering (e.emit events) settings n d s f
  · dsimp only
    rw [show (e.remembering settings).emit events = (e.emit events).remembering settings from rfl]
    split
    · rfl
    · exact conclude_remembering (e.emit events) settings n d s reply

theorem resume_remembering (n : Nat) : (e.remembering settings).resume n = (e.resume n).remembering settings := by
  unfold resume
  rw [remembering_validations]
  split
  · split
    · rfl
    · exact conclude_remembering ..
  · rfl

theorem forget_remembering (n : Nat) : (e.remembering settings).forget n = (e.forget n).remembering settings := by
  unfold forget
  rw [remembering_validations, remembering_inflight]
  split
  · split <;> rfl
  · rfl

end

end Diagnosis.Engine
