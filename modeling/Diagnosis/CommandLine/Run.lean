import Diagnosis.CommandLine.Options
import Diagnosis.Engine.Move

/-!
# Running the command line

Checks the files that are named, writes a log, and either validates the files
once and prints the results, or hands them to the application. The exit code of
a single validation tells whether there is an error. The validations are waited
for along a course of moves: in whatever order they have their turns and their
compilers' outputs come, the first that gives no result ends it all.
-/

namespace Diagnosis.CommandLine

/-- How the application ends. -/
inductive AppEnding where
  | closed
  | interrupted
  | crashed (message : String)
  deriving DecidableEq, Repr, Inhabited

/-- The world that a command line runs in. -/
structure Setting where
  machine : Machine
  /-- The user's own directory. -/
  home : String
  terminal : Terminal := {}
  app : AppEnding := .closed
  /-- What happens while validations are waited for, before each has the turns that it waits for. -/
  course : List Engine.Move := []
  deriving Inhabited

/-- How the program ends. -/
inductive Ending where
  | returned
  | exit (code : Nat)
  | failed (f : Failure)
  /-- It waits for the output of a compiler, which does not come. -/
  | waiting
  deriving DecidableEq, Repr, Inhabited

/-- The code that the program ends with; one that waits has to be ended from outside. -/
def Ending.code : Ending → Nat
  | .returned => 0
  | .exit code => code
  | .failed _ | .waiting => 1

/-- What the program leaves behind. -/
structure Transcript where
  ending : Ending
  stdout : String := ""
  stderr : String := ""
  /-- How results are printed. -/
  form : Console.Form := .text {}
  trace : List Event := []
  /-- The files and the workspace that the application was given. -/
  opened : Option (List String × Option String) := none
  /-- The level of the log and its file, if there is one. -/
  log : Option (LogLevel × String) := none
  tree : FileTree
  deriving Inhabited

/-- The user's own folder. -/
def folderOf (home : String) : Path := (Path.ofString home).child ".cccdiag"

/-- The log file if none is named. -/
def defaultLog (home : String) : String := ((folderOf home).child "engine.log").text

/-- What is wrong with a file that is to be checked. -/
def complaint? (m : Machine) (path : String) : Option String :=
  if ! (! path.toList.contains '\x00' && m.tree.holds m.directory path) then some ("Error: File not found: " ++ path)
  else if ! isSupported path then
    some ("Error: Unsupported file type: " ++ path ++ ". Use .c, .h, .cpp, .cc, .cxx or .hpp")
  else none

/-- The log file's path from the root, and the tree with the file in it. -/
def openLog (m : Machine) (path : String) : Except SystemError (String × FileTree) := do
  let tree ← m.tree.makeDirectories m.directory (Path.ofString path).parent
  let file := Path.absolute (FileTree.textOf m.directory) path
  return (file, ← tree.modify m.directory file id)

/-- Loads and opens files one after the other. A failure of the engine is shown, any other ends it. -/
def openFiles (e : Engine) : List String → Engine × Except Failure (List Nat)
  | [] => (e, .ok [])
  | path :: rest =>
    match e.load path 0 with
    | (e, .error (.engine f)) => openFiles (e.tell (.error f.notification)) rest
    | (e, .error f) => (e, .error f)
    | (e, .ok d) =>
      let (e, n) := e.openDocument d
      match openFiles e rest with
      | (e, .error f) => (e, .error f)
      | (e, .ok ns) => (e, .ok (n :: ns))

/-- Why a validation that was waited for has no result, if it has none. -/
def failureOf? (e : Engine) (n : Nat) : Option Failure :=
  match e.validations[n]?.map Validation.phase with
  | some (.finished .cancelled) => some .cancelled
  | some (.finished (.refused f)) => some f
  | _ => none

/-- What waiting for validations has come to: the failure of one that has no result, or whether there
is an error when all have ended. -/
def resultOf? (e : Engine) (ns : List Nat) : Option (Except Failure Bool) :=
  match ns.findSome? (failureOf? e) with
  | some f => some (.error f)
  | none => if ns.all e.isDone then some (.ok e.session.anyErrors) else none

/-- Waits for validations while moves are made, as long as that has come to nothing. -/
def wait (ns : List Nat) : Engine → List Engine.Move → Engine × Option (Except Failure Bool)
  | e, [] => (e, resultOf? e ns)
  | e, m :: rest =>
    match resultOf? e ns with
    | some r => (e, some r)
    | none => wait ns (e.after m) rest

/-- A course, and all turns that are left at its end. -/
def toTheEnd (e : Engine) (course : List Engine.Move) : List Engine.Move := course ++ (e.run course).settling

/-- Validates files once along a course, and tells whether there is an error. Whatever ends it all,
validations that wait for a turn have it, and then those that have not ended are called off. -/
def validateOnce (e : Engine) (files : List String) (course : List Engine.Move) :
    Engine × Option (Except Failure Bool) :=
  match openFiles e files with
  | (e, .error f) => (e.settle.shutdown, some (.error f))
  | (e, .ok ns) =>
    match wait ns e (toTheEnd e course) with
    | (e, some r) => (e.settle.shutdown, some r)
    | (e, none) => (e, none)

/-- What a console has been told in the end. -/
def consoleAfter (form : Console.Form) (trace : List Event) : Console :=
  trace.foldl (fun c event =>
    match event with
    | .notice n => c.receive n
    | _ => c) { form }

/-- The records of a trace that a log of a level keeps. -/
def kept (level : LogLevel) (trace : List Event) : List LogRecord :=
  trace.filterMap fun event =>
    match event with
    | .record r => if level.number ≤ r.level.number then some r else none
    | _ => none

/-- The lines of a log file for records, all at one time. -/
def logText (time : String) (records : List LogRecord) : String :=
  String.join (records.map fun r => "[" ++ time ++ "] " ++ r.line ++ "\n")

/-- How the program ends, given what a console has been told and what waiting has come to. -/
def endingAfter (c : Console) : Option (Except Failure Bool) → Ending
  | none => .waiting
  | some (.error f) => .failed f
  | some (.ok hasErrors) => .exit (if hasErrors || ! c.errors.isEmpty then 1 else 0)

/-- Validates files once with an engine of its own. -/
def runOnce (s : Setting) (form : Console.Form) (files : List String) (workspace : Option String) : Transcript :=
  match Engine.create s.machine (.console form) (folderOf s.home) workspace with
  | .error f => { ending := .failed f, form, tree := s.machine.tree }
  | .ok e =>
    let (e, r) := validateOnce e files s.course
    { ending := endingAfter (consoleAfter form e.trace) r, form, trace := e.trace, tree := e.machine.tree }

/-- Hands files to the application. -/
def runApp (s : Setting) (files : List String) (workspace : Option String) : Transcript :=
  let t : Transcript := { ending := .returned, tree := s.machine.tree, opened := some (files, workspace) }
  match s.app with
  | .closed | .interrupted => t
  | .crashed message => { t with ending := .exit 1, stdout := "Fatal Error: " ++ message ++ "\n" }

/-- Runs with options that have been read. -/
def runWith (s : Setting) (o : Options) : Transcript :=
  let t : Transcript := { ending := .exit 1, tree := s.machine.tree }
  if o.files.isEmpty then
    { t with stdout := "Error: No source file specified.\nUsage: cccdiag <file.c> [file.c ...]\n" } else
  let here := FileTree.textOf s.machine.directory
  let files := o.files.map (Path.absolute here)
  match files.findSome? (complaint? s.machine) with
  | some message => { t with stdout := message ++ "\n" }
  | none =>
    let workspace := (workspaceOf o.workspace).map (Path.absolute here)
    match openLog s.machine (o.logFile.getD (defaultLog s.home)) with
    | .error f => { t with ending := .failed (.system f) }
    | .ok (file, tree) =>
      let s := { s with machine := { s.machine with tree } }
      let form := if o.json then .json else .text s.terminal
      let t := if o.once then runOnce s form files workspace else runApp s files workspace
      { t with log := some (if o.verbose then .debug else .info, file) }

/-- The tree with the log written into its file, given the time of all its records. -/
def Transcript.treeWithLog (t : Transcript) (directory : List String) (time : String) : FileTree :=
  match t.log with
  | none => t.tree
  | some (level, file) =>
    let text := Encoding.Utf8.encode (logText time (kept level t.trace)).toList
    match t.tree.modify directory file (· ++ text) with
    | .ok tree => tree
    | .error _ => t.tree

/-- Runs a command line. -/
def run (s : Setting) (args : List String) : Transcript :=
  match Options.ofArguments args with
  | .ok o => runWith s o
  | .error .help => { ending := .exit 0, stdout := helpText, tree := s.machine.tree }
  | .error (.wrong message) =>
    { ending := .exit 2, stderr := usage ++ "cccdiag: error: " ++ message ++ "\n", tree := s.machine.tree }

end Diagnosis.CommandLine
