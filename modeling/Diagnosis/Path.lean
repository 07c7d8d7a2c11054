/-!
# Paths

Paths as texts: their parts, name, parent and suffix, joining two of them, and
taking out of a path what leads nowhere. Nothing here looks at files.
-/

namespace Diagnosis

/-- A path taken apart. Empty parts and single dots say nothing and are left out; exactly two
slashes at the front are a root of their own. -/
structure Path where
  root : String
  parts : List String
  deriving DecidableEq, Repr, Inhabited

namespace Path

/-- The pieces of a text between its slashes. -/
def splitSlashes : List Char → List (List Char)
  | [] => [[]]
  | c :: rest =>
    if c = '/' then [] :: splitSlashes rest
    else match splitSlashes rest with
      | [] => [[c]]
      | piece :: pieces => (c :: piece) :: pieces

/-- The pieces of a path that say something. -/
def pieces (s : String) : List String :=
  ((splitSlashes s.toList).filter fun p => p != [] && p != ['.']).map String.ofList

/-- The root that a path begins with. -/
def rootOf (s : String) : String :=
  match s.toList with
  | '/' :: '/' :: '/' :: _ => "/"
  | '/' :: '/' :: _ => "//"
  | '/' :: _ => "/"
  | _ => ""

/-- The parts of a path. -/
def ofString (s : String) : Path := ⟨rootOf s, pieces s⟩

/-- The text of a path. -/
def text (p : Path) : String :=
  if p.root.isEmpty && p.parts.isEmpty then "." else p.root ++ "/".intercalate p.parts

/-- The last part. -/
def name (p : Path) : String := p.parts.getLast?.getD ""

/-- The path without its last part. -/
def parent (p : Path) : Path := { p with parts := p.parts.dropLast }

/-- A path with one more part. -/
def child (p : Path) (part : String) : Path := { p with parts := p.parts ++ [part] }

/-- A path with further text after it; text with a root of its own replaces it. -/
def joined (p : Path) (s : String) : Path :=
  let q := ofString s
  if q.root.isEmpty then { p with parts := p.parts ++ q.parts } else q

/-- The last dot of a name and what follows it; nothing when the dot begins or ends the name. -/
def suffixOf (name : List Char) : List Char :=
  let after := (name.reverse.takeWhile (· != '.')).reverse
  if after.isEmpty || name.length ≤ after.length + 1 then [] else '.' :: after

/-- The suffix of the last part. -/
def suffix (p : Path) : String := String.ofList (suffixOf p.name.toList)

/-- A path after another one, unless it has a root of its own. -/
def join (a b : String) : String :=
  if b.startsWith "/" then b
  else if a.isEmpty || a.endsWith "/" then a ++ b
  else a ++ "/" ++ b

/-- Parts with each `..` taken together with the part before it; those that are left at the front
stay unless there is a root above which there is nothing. `done` comes last first. -/
def climb (rooted : Bool) : List String → List String → List String
  | done, [] => done.reverse
  | done, part :: rest =>
    if part ≠ ".." then climb rooted (part :: done) rest
    else match done with
      | [] => climb rooted (if rooted then [] else [".."]) rest
      | last :: before => if last = ".." then climb rooted (".." :: done) rest else climb rooted before rest

/-- A path without parts that lead nowhere. -/
def normalize (s : String) : String :=
  let p := ofString s
  text ⟨p.root, climb (! p.root.isEmpty) [] p.parts⟩

/-- A path from the root, given the directory that it is relative to. -/
def absolute (directory s : String) : String := normalize (join directory s)

end Path

/-- The name of a file: the last part of its path. -/
def fileName (path : String) : String := (Path.ofString path).name

/-- The suffixes of the files that are checked. -/
def supportedSuffixes : List String := [".c", ".h", ".cpp", ".cc", ".cxx", ".hpp", ".hh", ".C"]

/-- Whether a file is one that is checked. -/
def isSupported (path : String) : Bool := supportedSuffixes.contains (Path.ofString path).suffix

end Diagnosis
