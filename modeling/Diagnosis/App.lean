import Diagnosis.Display.Problems
import Diagnosis.Engine.Trigger
import Diagnosis.Watch

/-!
# The application

Shows the problems of some source files, and validates them again when they or
the configuration are saved. What the engine publishes and what the watch
notices goes into an inbox, and is dealt with one after the other in the order
in which it came.
-/

namespace Diagnosis

open Diagnosis.Display

/-- Something in the inbox. -/
inductive Message where
  | published (uri : String) (ds : List Diagnostic)
  | changed (c : Change)
  deriving DecidableEq, Repr, Inhabited

/-- The application. Its engine's trace has what the application itself tells the user, too. -/
structure App where
  sources : List String
  engine : Engine
  /-- Nothing if files are not watched. -/
  watch : Option Watch := some {}
  problems : Problems := Problems.mount {}
  bar : StatusBar := {}
  inbox : List Message := []
  deriving Inhabited

namespace App

/-- What goes into the inbox for something seen. -/
def messageOf : Event → Option Message
  | .notice (.publish uri ds) => some (.published uri ds)
  | _ => none

/-- With a later state of the engine, and what it published since in the inbox. -/
def advance (a : App) (e : Engine) : App :=
  { a with engine := e, inbox := a.inbox ++ (e.trace.drop a.engine.trace.length).filterMap messageOf }

/-- Lets the engine work until it has nothing to do. -/
def settle (a : App) : App := a.advance a.engine.settle

/-- Shows a failure to the user. -/
def showError (a : App) (message : String) : App := a.advance (a.engine.tell (.error message))

/-- The application for some source files, with its engine. -/
def create (engine : Engine) (sources : List String) (watched : Bool) : Except Failure App := do
  let paths ← sources.mapM fun p => (engine.machine.tree.resolve engine.machine.directory p).map Path.text
  return { sources := paths, engine, watch := if watched then some {} else none }

/-- Reads a source file and validates it, or shows why it cannot be read. -/
def validatePath (a : App) (path : String) : App × Option Failure :=
  match a.engine.load path 0 with
  | (e, .error (.engine f)) => ((a.advance e).showError f.notification, none)
  | (e, .error (.system f)) =>
    ((a.advance e).showError (notificationOf ("cannot read " ++ path ++ ": " ++ f.message)), none)
  | (e, .error f) => (a.advance e, some f)
  | (e, .ok d) =>
    let a := a.advance (e.openDocument d).1
    ({ a with bar := a.bar.update (some a.sources.length) (some "validating") none }, none)

/-- Validates paths one after the other. -/
def validatePaths (a : App) : List String → App × Option Failure
  | [] => (a, none)
  | path :: rest =>
    match a.validatePath path with
    | (a, some f) => (a, some f)
    | (a, none) => a.validatePaths rest

/-- Validates all source files. -/
def revalidate (a : App) : App × Option Failure := a.validatePaths a.sources

/-- The directories of the source files. -/
def directories (a : App) : List String := Text.sorted (a.sources.map Watch.directoryOf)

/-- Watches the source files and every file that their settings may come from. -/
def startWatching (a : App) (w : Watch) : App × Option Failure :=
  let m := a.engine.machine
  match a.engine.store.watched m.tree m.directory a.directories with
  | .error f => (a, some f)
  | .ok configs =>
    let (w, f) := w.start m.tree m.directory a.sources configs
    ({ a with watch := some w }, f)

/-- Begins: validates all source files and watches them. -/
def mount (a : App) : App × Option Failure :=
  match a.revalidate with
  | (a, some f) => (a, some f)
  | (a, none) =>
    match a.watch with
    | none => (a, none)
    | some w => a.startWatching w

/-- Ends: stops watching and calls off what is under way. -/
def unmount (a : App) : App :=
  let a := { a with watch := a.watch.map Watch.stop }
  a.advance a.engine.shutdown

/-- Takes note of something that happened to a file. -/
def notice (a : App) (isDirectory : Bool) (e : FileEvent) : App × Option Failure :=
  match a.watch with
  | none => (a, none)
  | some w =>
    match w.changeOf a.engine.machine.tree a.engine.machine.directory isDirectory e with
    | .error f => (a, some f)
    | .ok c => ({ a with inbox := a.inbox ++ c.toList.map .changed }, none)

/-- Deals with a message. -/
def receive (a : App) : Message → App × Option Failure
  | .changed (.saved path) => a.validatePath path
  | .changed (.configured path) =>
    let a := a.advance (a.engine.tell (.log ("Configuration changed: " ++ path)))
    match a.engine.configurationChanged with
    | (e, .error f) => (a.advance e, some f)
    | (e, .ok _) => (a.advance e, none)
  | .published uri ds =>
    match a.problems.set uri ds with
    | (problems, some message) => ({ a with problems }, some (.value message))
    | (problems, none) =>
      ({ a with
        problems
        bar := a.bar.update (some a.sources.length) (some "updated %H:%M:%S") (some problems.all) }, none)

/-- Deals with messages one after the other, and lets the engine work after each. Those that come
after a failure go back into the inbox. -/
def receiveAll (a : App) : List Message → App × Option Failure
  | [] => (a, none)
  | m :: rest =>
    match a.receive m with
    | (a, some f) => ({ a with inbox := rest ++ a.inbox }, some f)
    | (a, none) => a.settle.receiveAll rest

/-- Deals with what is in the inbox now. -/
def receiveInbox (a : App) : App × Option Failure := { a with inbox := [] }.receiveAll a.inbox

/-- Lets the engine work and deals with all messages. Only published sets come in meanwhile, and
dealing with those brings in nothing more, so that going through the inbox twice is enough. -/
def deliver (a : App) : App × Option Failure :=
  match a.settle.receiveInbox with
  | (a, some f) => (a, some f)
  | (a, none) => a.receiveInbox

end App

end Diagnosis
