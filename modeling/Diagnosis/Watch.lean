import Diagnosis.FileTree.Resolve
import Diagnosis.Text.Sorted

/-!
# Watching files

Which directories have to be watched so that no change of a document or a
configuration file is missed, and what a change of a file means: that a
document has been saved, that the configuration has changed, or nothing.
-/

namespace Diagnosis

open Diagnosis.Text (sorted insertSorted)

/-- A directory that is watched. -/
structure Scheduled where
  directory : String
  /-- Whether the directories in it are watched as well. -/
  recursive : Bool
  deriving DecidableEq, Repr, Inhabited

/-- What is watched. The lists of files are sorted. -/
structure Watch where
  documents : List String := []
  configs : List String := []
  /-- The directories that are watched, in the order in which they were added. -/
  scheduled : List Scheduled := []
  alive : Bool := false
  /-- Whether watching has come to an end once. -/
  joined : Bool := false
  deriving DecidableEq, Repr, Inhabited

/-- What a change of a file means. -/
inductive Change where
  | saved (path : String)
  | configured (path : String)
  deriving DecidableEq, Repr, Inhabited

/-- What happened to a file. -/
inductive FileEvent where
  | modified (path : String)
  | created (path : String)
  | moved (source target : String)
  deriving DecidableEq, Repr, Inhabited

/-- The path that an event leaves something new at. -/
def FileEvent.path : FileEvent → String
  | .modified path => path
  | .created path => path
  | .moved _ target => target

namespace Watch

/-- What a change at a path without links means. -/
def changeAt (w : Watch) (path : String) : Option Change :=
  if w.documents.contains path then some (.saved path)
  else if w.configs.contains path then some (.configured path)
  else none

/-- What an event means. Events about directories mean nothing. -/
def changeOf (w : Watch) (t : FileTree) (directory : List String) (isDirectory : Bool) (e : FileEvent) :
    Except Failure (Option Change) :=
  if isDirectory then .ok none else
  (t.resolve directory e.path).map fun p => w.changeAt p.text

/-- With documents to watch, up to one that is not there. -/
def addDocuments (t : FileTree) (directory : List String) : Watch → List String → Watch × Option Failure
  | w, [] => (w, none)
  | w, path :: rest =>
    match t.resolve directory path with
    | .error e => (w, some e)
    | .ok p =>
      if t.holds directory p.text then
        addDocuments t directory { w with documents := insertSorted p.text w.documents } rest
      else (w, some (.system (.unwatchable path)))

/-- With configuration files to watch, which need not be there. -/
def addConfigs (t : FileTree) (directory : List String) : Watch → List String → Watch × Option Failure
  | w, [] => (w, none)
  | w, path :: rest =>
    match t.resolve directory path with
    | .error e => (w, some e)
    | .ok p => addConfigs t directory { w with configs := insertSorted p.text w.configs } rest

/-- The paths of the directories that are watched. -/
def directories (w : Watch) : List String := w.scheduled.map Scheduled.directory

/-- With a directory to watch, once, if it is there. What is in the directories under it is not
watched. -/
def addDirectory (t : FileTree) (directory : List String) (w : Watch) (d : String) : Watch :=
  if t.isDirectory directory d && ! w.directories.contains d then { w with scheduled := w.scheduled ++ [⟨d, false⟩] }
  else w

/-- The directory of a file. -/
def directoryOf (path : String) : String := (Path.ofString path).parent.text

/-- Starts to watch. What has been added before a failure stays. -/
def start (w : Watch) (t : FileTree) (directory : List String) (documents configs : List String) :
    Watch × Option Failure :=
  match addDocuments t directory w documents with
  | (w, some e) => (w, some e)
  | (w, none) =>
    match addConfigs t directory w configs with
    | (w, some e) => (w, some e)
    | (w, none) =>
      let w := ((sorted (w.documents ++ w.configs)).map directoryOf).foldl (addDirectory t directory) w
      ({ w with alive := true }, none)

/-- Stops watching. -/
def stop (w : Watch) : Watch := if w.alive then { w with alive := false, joined := true } else w

end Watch

end Diagnosis
