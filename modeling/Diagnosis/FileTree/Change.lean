import Diagnosis.FileTree.Basic

/-!
# Changing trees of files

Writing files and making directories.
-/

namespace Diagnosis.FileTree

/-- Writes a file where a path leads to, given what is to become of the bytes that are there. -/
def modify (t : FileTree) (directory : List String) (path : String) (f : List Nat → List Nat) :
    Except SystemError FileTree :=
  match t.locate true directory path with
  | .error fault => .error (.file fault path)
  | .ok (_, some .directory) => .error (.file .isDirectory path)
  | .ok (place, some (.file bytes)) => .ok (t.put place (.file (f bytes)))
  | .ok (place, _) => .ok (t.put place (.file (f [])))

/-- Writes a file anew. -/
def write (t : FileTree) (directory : List String) (path : String) (bytes : List Nat) :
    Except SystemError FileTree :=
  t.modify directory path fun _ => bytes

/-- Makes one directory where nothing is yet. -/
def makeDirectory (t : FileTree) (directory : List String) (path : String) : Except SystemError FileTree :=
  match t.locate false directory path with
  | .error fault => .error (.file fault path)
  | .ok (place, none) => .ok (t.put place .directory)
  | .ok (_, some _) => .error (.file .fileExists path)

/-- Makes the directory of the first parts of a path and those above it that are missing. One that
is there already is fine. -/
def makeFirst (t : FileTree) (directory : List String) (p : Path) : Nat → Except SystemError FileTree
  | 0 =>
    let path := Path.text { p with parts := [] }
    match t.makeDirectory directory path with
    | .ok t' => .ok t'
    | .error e => if t.isDirectory directory path then .ok t else .error e
  | n + 1 =>
    let path := Path.text { p with parts := p.parts.take (n + 1) }
    match t.makeDirectory directory path with
    | .ok t' => .ok t'
    | .error (.file .notFound _) =>
      match t.makeFirst directory p n with
      | .error e => .error e
      | .ok t' =>
        match t'.makeDirectory directory path with
        | .ok t'' => .ok t''
        | .error (.file .notFound name) => .error (.file .notFound name)
        | .error e => if t'.isDirectory directory path then .ok t' else .error e
    | .error e => if t.isDirectory directory path then .ok t else .error e

/-- Makes a directory and those above it that are missing. -/
def makeDirectories (t : FileTree) (directory : List String) (p : Path) : Except SystemError FileTree :=
  t.makeFirst directory p p.parts.length

end Diagnosis.FileTree
