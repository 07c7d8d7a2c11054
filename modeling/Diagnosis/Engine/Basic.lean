import Diagnosis.Compiler.Run
import Diagnosis.Console
import Diagnosis.Report
import Diagnosis.Session
import Diagnosis.Settings.Store

/-!
# The engine

The state of a running engine: the machine it works on, its settings, the
session, and its validations. Each validation has a number. Those that may go
on wait in a queue, and a registry knows, for each document, the validation
that was triggered last.
-/

namespace Diagnosis

/-- The machine that files and compilers are on. -/
structure Machine where
  tree : FileTree
  /-- The directory that relative paths begin at. -/
  directory : List String
  toolchain : Toolchain := {}
  deriving Inhabited

/-- Whatever displays the results. -/
inductive Host where
  /-- Accepts everything. -/
  | display
  | console (form : Console.Form)
  deriving Inhabited

/-- Why a host does not accept a set of diagnostics under an address, if it does not. -/
def Host.refusal? : Host → String → List Diagnostic → Option Failure
  | .display, _, _ => none
  | .console form, uri, ds => Console.refusal? form uri ds

/-- How a validation ended. -/
inductive Outcome where
  /-- With a set of diagnostics. -/
  | published (ds : List Diagnostic)
  /-- With a failure; what was shown before stays. -/
  | failed
  /-- It was called off. -/
  | cancelled
  /-- The host did not accept its set. -/
  | refused (f : Failure)
  deriving DecidableEq, Repr, Inhabited

/-- Where a validation stands. -/
inductive Phase where
  /-- It has not started. -/
  | created
  /-- It waits for the output of its compiler. -/
  | compiling (settings : Settings) (reply : Reply)
  | finished (o : Outcome)
  deriving DecidableEq, Repr, Inhabited

/-- One pass over a document. -/
structure Validation where
  document : Document
  phase : Phase := .created
  /-- Whether it has been asked to stop. -/
  cancelled : Bool := false
  deriving DecidableEq, Repr, Inhabited

/-- Whether a validation has ended. -/
def Validation.isDone (v : Validation) : Bool :=
  match v.phase with
  | .finished _ => true
  | _ => false

/-- Something that the engine does as soon as it can. -/
inductive Errand where
  /-- A validation starts. -/
  | start (n : Nat)
  /-- A validation that waited goes on. -/
  | resume (n : Nat)
  /-- The registry forgets a validation that has ended. -/
  | forget (n : Nat)
  deriving DecidableEq, Repr, Inhabited

/-- A running engine. -/
structure Engine where
  machine : Machine
  host : Host := .display
  workspace : Option String := none
  store : Settings.Store
  session : Session := {}
  validations : List Validation := []
  /-- The validation triggered last for each document, until it is forgotten. -/
  inflight : Keyed Nat := []
  /-- What is to be done, the first one first. -/
  queue : List Errand := []
  /-- All that has been seen so far. -/
  trace : List Event := []
  deriving Inhabited

namespace Engine

/-- With something more seen. -/
def emit (e : Engine) (events : List Event) : Engine := { e with trace := e.trace ++ events }

/-- With a line in the log. -/
def log (e : Engine) (level : LogLevel) (message : String) : Engine := e.emit [.log level .engine message]

/-- With something told to the host. -/
def tell (e : Engine) (n : Notice) : Engine := e.emit [.notice n]

/-- With another session. -/
def withSession (e : Engine) (s : Session) : Engine := { e with session := s }

/-- Reports a failure of the engine to the log and to the user. -/
def report (e : Engine) (f : EngineError) : Engine :=
  (e.log .error f.notification).tell (.error f.notification)

/-- Reports a failure that should not have come up while a file was validated. -/
def reportInternal (e : Engine) (path message : String) : Engine :=
  (e.log .error ("Internal engine error while validating " ++ path)).tell
    (.error (notificationOf ("internal engine error: " ++ message)))

/-- Reports any failure of validating a file. -/
def reportFailure (e : Engine) (path : String) : Failure → Engine
  | .engine f => e.report f
  | f => e.reportInternal path f.message

/-- The first so many diagnostics, all if the limit is negative. -/
def limited (limit : Int) (ds : List Diagnostic) : List Diagnostic :=
  if limit < 0 then ds else ds.take limit.toNat

/-- Shows a set of diagnostics, cut off at the limit. Gives the set that was shown and why the
host did not accept it, if it did not. -/
def publish (e : Engine) (uri : String) (ds : List Diagnostic) (s : Settings) :
    Engine × List Diagnostic × Option Failure :=
  let shown := limited s.limit ds
  let e := if shown.length < ds.length then
      e.log .info ("Truncating " ++ Text.decimal ds.length ++ " diagnostics to " ++ Text.decimalInt s.limit ++
        " for " ++ uri)
    else e
  ((e.withSession (e.session.publish uri shown)).tell (.publish uri shown), shown, e.host.refusal? uri shown)

/-- The settings for a document, found anew if none are remembered. -/
def settingsFor (e : Engine) (uri path : String) : Engine × Except Failure Settings :=
  match e.session.settings.get? uri with
  | some s => (e, .ok s)
  | none =>
    match e.store.settingsFor e.machine.tree e.machine.directory path with
    | .error f => (e, .error f)
    | .ok s => (e.withSession (e.session.keepSettings uri s), .ok s)

/-- Reads a source file in the encoding that its settings name. -/
def load (e : Engine) (path : String) (version : Int) : Engine × Except Failure Document :=
  match e.machine.tree.resolve e.machine.directory path with
  | .error f => (e, .error f)
  | .ok p =>
    match e.settingsFor (Uri.ofPath p.text) path with
    | (e, .error f) => (e, .error f)
    | (e, .ok s) => (e, Document.read e.machine.tree e.machine.directory path s.encoding version)

end Engine

end Diagnosis
