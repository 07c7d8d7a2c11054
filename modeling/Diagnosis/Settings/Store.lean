import Diagnosis.Arguments
import Diagnosis.Encoding.Utf8
import Diagnosis.FileTree.Change
import Diagnosis.FileTree.Resolve
import Diagnosis.Json.Reader
import Diagnosis.Settings.Check
import Diagnosis.Text.Newline

/-!
# Where settings are kept

A user's own file lies over the built-in layer; the files in a document's
folder, and in the folders above it up to the workspace root, lie over that,
the outermost first. A user's file that cannot be read is passed over with a
warning, a folder's file that cannot be read is a fault.
-/

namespace Diagnosis.Settings

open Diagnosis.Json (Value Fields)

/-- The name of a folder's file. -/
def folderFileName : String := ".cccdiag.json"

/-- The layer that the bytes of a file hold, or what is wrong with them. -/
def readLayer (bytes : List Nat) : Except String Fields :=
  match Encoding.Utf8.decode bytes with
  | .error e => .error e.message
  | .ok cs =>
    let text := Text.unifyLineEnds cs
    match Json.readChars text with
    | .error e => .error (e.message text)
    | .ok v =>
      match layerOf? v with
      | none => .error "top-level JSON value must be an object"
      | some fields => .ok fields

/-- The layer of a file, or what is wrong with it. -/
def loadLayer (t : FileTree) (directory : List String) (path : String) : Except String Fields :=
  match t.read directory path with
  | .error e => .error e.message
  | .ok bytes => readLayer bytes

/-- The settings of a user and the workspace that folders' files count in. -/
structure Store where
  /-- The folder of the user's own file. -/
  folder : Path
  workspace : Option Path
  /-- The user's file over the built-in layer. -/
  fields : Fields
  deriving Repr, Inhabited

namespace Store

/-- The user's own file in a folder. -/
def fileIn (folder : Path) : String := (folder.child "config.json").text

/-- The user's own file. -/
def file (s : Store) : String := fileIn s.folder

/-- What reading the user's file gives. -/
structure Loaded where
  tree : FileTree
  fields : Fields
  /-- What is wrong with the file that has been passed over. -/
  warning : Option String
  deriving Repr, Inhabited

/-- The settings over the built-in ones in a folder, which is made if it is missing. -/
def load (t : FileTree) (directory : List String) (folder : Path) : Except SystemError Loaded := do
  let t ← t.makeDirectories directory folder
  if ! t.holds directory (fileIn folder) then return ⟨t, builtIn, none⟩
  match loadLayer t directory (fileIn folder) with
  | .ok fields => return ⟨t, overlay builtIn fields, none⟩
  | .error reason => return ⟨t, builtIn, some ("Ignoring unreadable config " ++ fileIn folder ++ ": " ++ reason)⟩

/-- The settings of a folder, for documents of a workspace. -/
def create (t : FileTree) (directory : List String) (folder : Path) (workspace : Option String) :
    Except Failure (Store × Loaded) := do
  let root ← match workspaceOf workspace with
    | some w => (t.resolve directory w).map some
    | none => .ok none
  let l ← (load t directory folder).mapError .system
  return (⟨folder, root, l.fields⟩, l)

/-- The value of a dotted key. -/
def get? (s : Store) (key : String) : Option Value := lookup? s.fields key

/-- The settings with a value under a dotted key. -/
def withValue (s : Store) (key : String) (v : Value) : Store :=
  { s with fields := overlay s.fields (expand [(key, v)]) }

/-- Writes the user's file. -/
def save (s : Store) (t : FileTree) (directory : List String) : FileTree × Option SystemError :=
  match t.makeDirectories directory s.folder with
  | .error e => (t, some e)
  | .ok t =>
    match t.write directory s.file (Encoding.Utf8.encode (Json.renderIndented (.object s.fields)).toList) with
    | .error e => (t, some e)
    | .ok t => (t, none)

/-- The directory of a path without links. -/
def directoryOf (t : FileTree) (directory : List String) (path : String) : Except Failure Path := do
  return (← t.resolve directory path).parent

/-- The folders whose files count for documents in a directory, the outermost first: those from
the workspace root down, or the directory alone if it is not below the root. -/
def foldersFor (workspace : Option Path) (inner : Path) : List Path :=
  match workspace with
  | none => [inner]
  | some root =>
    if root.root = inner.root ∧ root.parts <+: inner.parts then
      (List.range (inner.parts.length + 1 - root.parts.length)).map fun n =>
        { inner with parts := inner.parts.take (root.parts.length + n) }
    else [inner]

/-- The folders' files that count for a document, the outermost first. -/
def folderFiles (s : Store) (t : FileTree) (directory : List String) (document : String) :
    Except Failure (List String) := do
  let inner ← directoryOf t directory document
  return ((foldersFor s.workspace inner).map fun p => (p.child folderFileName).text).filter (t.isFile directory)

/-- The layers of files over others, the first one lowest. -/
def stack (t : FileTree) (directory : List String) : Fields → List String → Except ConfigurationFault Fields
  | fields, [] => .ok fields
  | fields, path :: rest =>
    match loadLayer t directory path with
    | .error reason => .error (.unreadable path reason)
    | .ok layer => stack t directory (overlay fields layer) rest

/-- The settings for a document. -/
def settingsFor (s : Store) (t : FileTree) (directory : List String) (document : String) :
    Except Failure Settings := do
  let files ← s.folderFiles t directory document
  let checked : Except ConfigurationFault Settings := do
    let fields ← stack t directory s.fields files
    ofFields fields
  checked.mapError fun e => .engine (.configuration e)

/-- Every file that settings of documents in some directories may come from. -/
def watched (s : Store) (t : FileTree) (directory : List String) (directories : List String) :
    Except Failure (List String) := do
  let folders ← directories.mapM fun d => t.resolve directory d
  return s.file :: (folders ++ s.workspace.toList).map fun p => (p.child folderFileName).text

end Store

end Diagnosis.Settings
