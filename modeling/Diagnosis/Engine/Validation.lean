import Diagnosis.Engine.Basic

/-!
# The steps of a validation

A validation starts, may have to wait for its compiler, and ends with a set of
diagnostics or with a failure that is reported once. One that has been asked to
stop does nothing more when it is its turn, except to kill a compiler that is
still running.
-/

namespace Diagnosis.Engine

open Diagnosis.Text (decimal decimalInt)

/-- With a validation in another phase. -/
def setPhase (e : Engine) (n : Nat) (p : Phase) : Engine :=
  { e with validations := e.validations.modify n fun v => { v with phase := p } }

/-- Ends a validation. -/
def finish (e : Engine) (n : Nat) (o : Outcome) : Engine :=
  { e.setPhase n (.finished o) with queue := e.queue ++ [.forget n] }

/-- Ends a validation with a failure. -/
def fail (e : Engine) (n : Nat) (d : Document) (f : Failure) : Engine :=
  (e.reportFailure d.path f).finish n .failed

/-- Ends a validation whose compiler gave no result: what was shown before is no longer true, but
the document is not clean. -/
def clear (e : Engine) (n : Nat) (d : Document) (s : Settings) (f : EngineError) : Engine :=
  match (e.report f).publish d.uri [] s with
  | (e, _, some f) => (e.reportInternal d.path f.message).finish n .failed
  | (e, _, none) => e.finish n (.published [])

/-- Ends a validation whose compiler did not run to its end. -/
def stopRun (e : Engine) (n : Nat) (d : Document) (s : Settings) : Failure → Engine
  | .engine (.invocation fault) => e.clear n d s (.invocation fault)
  | f => e.fail n d f

/-- The line of the log about a block that speaks of another file. -/
def skipped (name other : String) : Event :=
  .log .debug .parsing ("Skipping diagnostic for " ++ other ++ " (validating " ++ name ++ ")")

/-- What is said about an issue. -/
def mention (name : String) (i : Issue) : List Event :=
  let message := name ++ ": " ++ i.describe
  [.log .warning .engine message, .notice (.log message)]

/-- Says what a report has besides diagnostics. -/
def mentionRest (e : Engine) (name : String) (r : Report) : Engine :=
  e.emit (r.others.map (skipped name) ++ r.issues.flatMap (mention name) ++
    if r.filtered = 0 then []
    else [.log .debug .engine (decimal r.filtered ++ " block(s) belonged to other files")])

/-- The report that an output gives. -/
def reportOf (d : Document) (s : Settings) (o : Output) : Except Failure Report := do
  let text ← Compiler.textOf o s.encoding
  Diagnosis.report s text d.name d.text

/-- Ends a validation with the output of its compiler. -/
def conclude (e : Engine) (n : Nat) (d : Document) (s : Settings) (reply : Reply) : Engine :=
  let (event, r) := Compiler.conclude s.command reply.output
  let e := e.emit [event]
  match r with
  | .error f => e.stopRun n d s f
  | .ok o =>
    match reportOf d s o with
    | .error f => e.fail n d f
    | .ok r =>
      match (e.mentionRest d.name r).publish d.uri r.diagnostics s with
      | (e, _, some f) => e.finish n (.refused f)
      | (e, shown, none) => e.finish n (.published shown)

/-- Starts the compiler of a validation, and goes on if its output is there. -/
def compile (e : Engine) (n : Nat) (d : Document) (s : Settings) : Engine :=
  let (events, r) := Compiler.begin e.machine.toolchain s d.path e.workspace
  let e := e.emit events
  match r with
  | .error f => e.stopRun n d s f
  | .ok reply =>
    if reply.held then e.setPhase n (.compiling s reply)
    else e.conclude n d s reply

/-- A validation that has not started takes its first step. -/
def start (e : Engine) (n : Nat) : Engine :=
  match e.validations[n]? with
  | some ⟨d, .created, cancelled⟩ =>
    if cancelled then e.finish n .cancelled else
    let e := e.log .info ("Validating " ++ d.path ++ " (version " ++ decimalInt d.version ++ ")")
    match e.settingsFor d.uri d.path with
    | (e, .error f) => e.fail n d f
    | (e, .ok s) => e.compile n d s
  | _ => e

/-- A validation that has waited for its compiler goes on. -/
def resume (e : Engine) (n : Nat) : Engine :=
  match e.validations[n]? with
  | some ⟨d, .compiling s reply, cancelled⟩ =>
    if cancelled then
      (e.emit (if reply.exited then [] else [.kill d.name])).finish n .cancelled
    else e.conclude n d s reply
  | _ => e

/-- The registry forgets a validation that has ended, unless a later one has taken its place. -/
def forget (e : Engine) (n : Nat) : Engine :=
  match e.validations[n]? with
  | some v =>
    if v.isDone && e.inflight.get? v.document.uri == some n then
      { e with inflight := e.inflight.erase v.document.uri }
    else e
  | none => e

/-- Does an errand. -/
def perform (e : Engine) : Errand → Engine
  | .start n => e.start n
  | .resume n => e.resume n
  | .forget n => e.forget n

/-- Does the first errand in the queue. -/
def step (e : Engine) : Engine :=
  match e.queue with
  | [] => e
  | errand :: rest => { e with queue := rest }.perform errand

/-- Takes so many steps. -/
def steps : Nat → Engine → Engine
  | 0, e => e
  | n + 1, e => steps n e.step

/-- Works until the queue is empty. An errand leads to at most one more, and forgetting to none,
so that twice the length of the queue is enough. -/
def settle (e : Engine) : Engine := steps (2 * e.queue.length) e

end Diagnosis.Engine
