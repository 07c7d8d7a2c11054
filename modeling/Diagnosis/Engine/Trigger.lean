import Diagnosis.Engine.Validation

/-!
# What triggers validations

Opening, saving and closing documents, and changes of the configuration. A
trigger supersedes the validation of its document that has not ended yet; the
last one wins.
-/

namespace Diagnosis.Engine

/-- Asks a validation to stop. One that waits for its compiler gets its turn for that. -/
def cancel (e : Engine) (n : Nat) : Engine :=
  match e.validations[n]? with
  | some ⟨_, .created, _⟩ => mark e
  | some ⟨_, .compiling _ _, _⟩ =>
    if e.queue.contains (.resume n) then mark e
    else { mark e with queue := e.queue ++ [.resume n] }
  | _ => e
where
  /-- With a note that it has been asked. -/
  mark (e : Engine) : Engine :=
    { e with validations := e.validations.modify n fun v => { v with cancelled := true } }

/-- Whether a validation has ended. -/
def isDone (e : Engine) (n : Nat) : Bool := (e.validations[n]?.map Validation.isDone).getD true

/-- Calls off the validation of a document that has not ended yet. -/
def supersede (e : Engine) (uri : String) : Engine :=
  match e.inflight.get? uri with
  | some n =>
    if e.isDone n then e
    else (e.log .debug ("Superseding in-flight validation of " ++ uri)).cancel n
  | none => e

/-- Creates a validation of a document in place of an earlier one, and gives its number. -/
def schedule (e : Engine) (d : Document) : Engine × Nat :=
  let e := e.supersede d.uri
  let n := e.validations.length
  ({ e with
    validations := e.validations ++ [{ document := d }]
    inflight := e.inflight.put d.uri n
    queue := e.queue ++ [.start n] }, n)

/-- Opens a document, or takes note that it was saved. -/
def openDocument (e : Engine) (d : Document) : Engine × Nat :=
  (e.withSession (e.session.hold d)).schedule d

/-- Closes a document. Gives why the host did not accept that, if it did not. -/
def closeDocument (e : Engine) (uri : String) : Engine × Option Failure :=
  let e := match e.inflight.get? uri with
    | some n => { e with inflight := e.inflight.erase uri }.cancel n
    | none => e
  ((e.withSession (e.session.close uri)).tell (.publish uri []), e.host.refusal? uri [])

/-- Reads the settings of the user anew. -/
def reload (e : Engine) : Engine × Option Failure :=
  match Settings.Store.load e.machine.tree e.machine.directory e.store.folder with
  | .error f => (e, some (.system f))
  | .ok l =>
    let e := { e with
      machine := { e.machine with tree := l.tree }
      store := { e.store with fields := l.fields } }
    (e.emit (l.warning.toList.map (.log .warning .settings)), none)

/-- Reads a document anew and validates it, if it can be read. Where the system refuses to give
it, the old text is validated; other failures of the engine are reported. -/
def revalidate (e : Engine) (d : Document) : Engine × Except Failure (List Nat) :=
  match e.load d.path d.version with
  | (e, .ok d) => accept e d
  | (e, .error (.engine f)) => (e.report f, .ok [])
  | (e, .error (.system f)) =>
    accept (e.log .warning ("Cannot re-read " ++ d.path ++ ", validating the last snapshot: " ++ f.message)) d
  | (e, .error f) => (e, .error f)
where
  /-- Opens the document. -/
  accept (e : Engine) (d : Document) : Engine × Except Failure (List Nat) :=
    let (e, n) := e.openDocument d
    (e, .ok [n])

/-- Revalidates documents one after the other. -/
def revalidateAll (e : Engine) : List Document → Engine × Except Failure (List Nat)
  | [] => (e, .ok [])
  | d :: rest =>
    match e.revalidate d with
    | (e, .error f) => (e, .error f)
    | (e, .ok ns) =>
      match e.revalidateAll rest with
      | (e, .error f) => (e, .error f)
      | (e, .ok ms) => (e, .ok (ns ++ ms))

/-- Forgets all settings, reads them anew, and revalidates every open document. -/
def configurationChanged (e : Engine) : Engine × Except Failure (List Nat) :=
  match e.reload with
  | (e, some f) => (e, .error f)
  | (e, none) =>
    let e := e.withSession e.session.invalidate
    e.revalidateAll (e.session.documents.map Prod.snd)

/-- Whether a validation waits for its compiler, and has not got its turn yet. -/
def awaits (e : Engine) (n : Nat) : Bool :=
  match e.validations[n]? with
  | some v =>
    match v.phase with
    | .compiling _ _ => ! e.queue.contains (.resume n)
    | _ => false
  | none => false

/-- The output comes that a validation waits for. -/
def release (e : Engine) (n : Nat) : Engine :=
  { e with queue := e.queue ++ if e.awaits n then [.resume n] else [] }

/-- Calls off all validations and waits until they have ended. -/
def shutdown (e : Engine) : Engine :=
  { ((e.inflight.map Prod.snd).foldl cancel e).settle with inflight := [] }

/-- An engine with the settings of a folder, in a workspace. -/
def create (machine : Machine) (host : Host) (folder : Path) (workspace : Option String) : Except Failure Engine := do
  let (store, l) ← Settings.Store.create machine.tree machine.directory folder workspace
  return {
    machine := { machine with tree := l.tree }
    host, workspace, store
    trace := l.warning.toList.map (.log .warning .settings) }

end Diagnosis.Engine
