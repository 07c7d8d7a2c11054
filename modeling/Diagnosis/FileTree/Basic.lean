import Diagnosis.Failure
import Diagnosis.Path

/-!
# Trees of files

What stands where in a tree of directories, files and symbolic links, and how
the system finds the place that a path leads to: part by part, through links,
at most forty of them. A place is the list of parts from the root; no link is
on the way to a place that holds something.
-/

namespace Diagnosis

/-- What stands at a place. -/
inductive Entry where
  | file (bytes : List Nat)
  | directory
  | link (target : String)
  deriving DecidableEq, Repr, Inhabited

/-- A tree of files. The root is always a directory. -/
structure FileTree where
  entries : List (List String × Entry) := []
  deriving DecidableEq, Repr, Inhabited

namespace FileTree

/-- What stands at a place. -/
def entry? (t : FileTree) (place : List String) : Option Entry :=
  if place.isEmpty then some .directory else t.entries.lookup place

/-- A tree with something put at a place, in place of what stood there. -/
def put (t : FileTree) (place : List String) (e : Entry) : FileTree :=
  ⟨(place, e) :: t.entries.filter (·.1 != place)⟩

/-- The pieces of a path's text, empty ones too. -/
def rawPieces (s : String) : List String := (Path.splitSlashes s.toList).map String.ofList

/-- Where the pieces of a path lead until they are used up or a link comes. -/
inductive Descent where
  | arrived (place : List String) (e : Option Entry)
  | linked (directory : List String) (target : String) (rest : List String)
  | blocked (fault : SystemFault)
  deriving DecidableEq, Repr

/-- Goes down from a directory. Nothing may be missing but the last piece; a link at the last
piece is followed only if `last` says so. -/
def descend (t : FileTree) (last : Bool) : List String → List String → Descent
  | directory, [] => .arrived directory (some .directory)
  | directory, piece :: rest =>
    if piece = "" ∨ piece = "." then descend t last directory rest
    else if piece = ".." then descend t last directory.dropLast rest
    else
      let place := directory ++ [piece]
      match t.entry? place with
      | none => if rest.isEmpty then .arrived place none else .blocked .notFound
      | some .directory => descend t last place rest
      | some (.file bytes) => if rest.isEmpty then .arrived place (some (.file bytes)) else .blocked .notDirectory
      | some (.link target) =>
        if rest.isEmpty && ! last then .arrived place (some (.link target)) else .linked directory target rest

/-- The directory that a path begins at, given the one that relative paths begin at. -/
def startOf (directory : List String) (path : String) : List String :=
  if path.startsWith "/" then [] else directory

/-- Follows the pieces of a path from a directory through at most so many links. -/
def walk (t : FileTree) (last : Bool) : Nat → List String → List String → Except SystemFault (List String × Option Entry)
  | links, directory, pieces =>
    match t.descend last directory pieces with
    | .arrived place e => .ok (place, e)
    | .blocked fault => .error fault
    | .linked within target rest =>
      match links with
      | 0 => .error .tooManyLinks
      | links + 1 => t.walk last links (startOf within target) (rawPieces target ++ rest)

/-- How many links the system follows. -/
def linkLimit : Nat := 40

/-- The place a path leads to, and what stands there. -/
def locate (t : FileTree) (last : Bool) (directory : List String) (path : String) :
    Except SystemFault (List String × Option Entry) :=
  if path.isEmpty then .error .notFound
  else t.walk last linkLimit (startOf directory path) (rawPieces path)

/-- What stands where a path leads to in the end. -/
def find? (t : FileTree) (directory : List String) (path : String) : Option Entry :=
  match t.locate true directory path with
  | .ok (_, e) => e
  | .error _ => none

/-- Whether a path leads to something. -/
def holds (t : FileTree) (directory : List String) (path : String) : Bool := (t.find? directory path).isSome

/-- Whether a path leads to a file. -/
def isFile (t : FileTree) (directory : List String) (path : String) : Bool :=
  match t.find? directory path with
  | some (.file _) => true
  | _ => false

/-- Whether a path leads to a directory. -/
def isDirectory (t : FileTree) (directory : List String) (path : String) : Bool :=
  t.find? directory path == some .directory

/-- The bytes of the file that a path leads to. -/
def read (t : FileTree) (directory : List String) (path : String) : Except SystemError (List Nat) :=
  match t.locate true directory path with
  | .error fault => .error (.file fault path)
  | .ok (_, some (.file bytes)) => .ok bytes
  | .ok (_, some _) => .error (.file .isDirectory path)
  | .ok (_, none) => .error (.file .notFound path)

end FileTree

end Diagnosis
