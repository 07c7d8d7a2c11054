import Diagnosis.FileTree.Basic

/-!
# Resolving paths

The path from the root that a path means: links are replaced by where they
lead, and parts that are missing stay. A link that leads back to itself is
refused, unless what comes after it leads away from it again. Links are told
apart by how they are written, from the root or from the directory that
relative paths begin at.
-/

namespace Diagnosis.FileTree

/-- A place as the text of a path names it, in a directory so many parts deep that relative paths
begin at. A text that begins there leaves out first parts of the place. -/
structure Spot (depth : Nat) where
  place : List String
  /-- How many first parts are left out; nothing if the text begins at the root. -/
  unwritten : Option (Fin (depth + 1)) := none
  deriving DecidableEq, Repr

namespace Spot

variable {depth : Nat}

/-- The directory that relative paths begin at. -/
def current (directory : List String) : Spot directory.length := ⟨directory, some (Fin.last directory.length)⟩

/-- Where a path begins that is met at a spot. -/
def start (s : Spot depth) (path : String) : Spot depth := if path.startsWith "/" then ⟨[], none⟩ else s

def down (s : Spot depth) (name : String) : Spot depth := { s with place := s.place ++ [name] }

/-- The spot above. Fewer parts are left out if there is nothing written to take away. -/
def up (s : Spot depth) : Spot depth :=
  ⟨s.place.dropLast, s.unwritten.map fun n =>
    ⟨min n.val s.place.dropLast.length, Nat.lt_of_le_of_lt (Nat.min_le_left ..) n.isLt⟩⟩

end Spot

/-- What is left to do while links are replaced. -/
inductive Errand (depth : Nat) where
  | piece (name : String)
  /-- The link at a spot has been gone through. -/
  | done (link : Spot depth)
  deriving DecidableEq, Repr

/-- The links come to so far and where they lead, nothing for one that is being gone through. -/
abbrev Seen (depth : Nat) := List (Spot depth × Option (Spot depth))

variable {depth : Nat}

/-- The pieces up to where the next link has been gone through, and what comes after that. -/
def splitErrands : List (Errand depth) → List String × List (Errand depth)
  | [] => ([], [])
  | .done _ :: rest => ([], rest)
  | .piece name :: rest => let (names, after) := splitErrands rest; (name :: names, after)

/-- The text of a place. -/
def textOf (place : List String) : String := "/" ++ "/".intercalate place

/-- A path with all that is left put behind it as it is. -/
def leave : Nat → String → List (Errand depth) → String
  | 0, path, _ => path
  | _, path, [] => path
  | fuel + 1, path, errands =>
    let (names, rest) := splitErrands errands
    leave fuel (Path.join path ("/".intercalate names)) rest

/-- Replaces links one by one. A link is known again where it is written as before. -/
def follow (t : FileTree) : Nat → Seen depth → Spot depth → List (Errand depth) → String
  | 0, _, spot, _ => textOf spot.place
  | _, _, spot, [] => textOf spot.place
  | fuel + 1, seen, spot, .done link :: rest => follow t fuel ((link, some spot) :: seen) spot rest
  | fuel + 1, seen, spot, .piece name :: rest =>
    if name = "" ∨ name = "." then follow t fuel seen spot rest
    else if name = ".." then follow t fuel seen spot.up rest
    else
      let here := spot.down name
      match t.entry? here.place with
      | some (.link target) =>
        match seen.lookup here with
        | some (some led) => follow t fuel seen led rest
        | some none => leave (rest.length + 1) (textOf here.place) rest
        | none =>
          follow t fuel ((here, none) :: seen) (spot.start target)
            ((rawPieces target).map .piece ++ .done here :: rest)
      | _ => follow t fuel seen here rest

/-- The ways in which a place may be written. -/
def writings (depth : Nat) : List (Option (Fin (depth + 1))) := none :: (List.finRange (depth + 1)).map some

/-- Enough steps to go through every link once for each way that it is written. -/
def stepsFor (t : FileTree) (depth : Nat) (pieces : List String) : Nat :=
  t.entries.foldl (fun n (_, e) =>
    match e with
    | .link target => n + (writings depth).length * ((rawPieces target).length + 1)
    | _ => n) (pieces.length + 1)

/-- The path from the root that a path means, or why there is none. -/
def resolve (t : FileTree) (directory : List String) (path : String) : Except Failure Path :=
  if path.toList.contains '\x00' then .error (.value "lstat: embedded null character in path") else
  let shown := (Path.ofString path).text
  let pieces := rawPieces shown
  let start := (Spot.current directory).start shown
  let resolved := Path.normalize (t.follow (t.stepsFor directory.length pieces) [] start (pieces.map .piece))
  match t.locate true directory resolved with
  | .error .tooManyLinks => .error (.runtime ("Symlink loop from " ++ Text.quotedText resolved))
  | _ => .ok (Path.ofString resolved)

end Diagnosis.FileTree
