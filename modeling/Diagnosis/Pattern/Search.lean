import Diagnosis.Pattern.Match

/-!
# Finding matches in a text

The first match at or after a position, and all matches one after the other. A
match after an empty one has to be longer or begin later.
-/


namespace Diagnosis

/-- A pattern ready to be matched: its node and the number of its groups. -/
structure Pattern where
  node : Pattern.Node
  groups : Nat
  deriving Repr, Inhabited

namespace Pattern

/-- Where a match begins, and the place where it ended. -/
structure Found where
  start : Nat
  place : Place
  deriving Repr, Inhabited

/-- The end of a match. -/
def Found.stop (f : Found) : Nat := f.place.pos

/-- The place at a position with no group matched. -/
def fresh (p : Pattern) (pos : Nat) : Place := ⟨pos, Array.replicate (2 * p.groups) none⟩

/-- The match at a position; one that takes no character only if it may. -/
def matchAt (p : Pattern) (text : Array Char) (pos : Nat) (mayBeEmpty : Bool) : Option Place :=
  p.node.run text (fun q => if mayBeEmpty || q.pos != pos then some q else none) (p.fresh pos)

/-- The first match at one of the next `n` positions. -/
def searchUpTo (p : Pattern) (text : Array Char) (pos : Nat) (mayBeEmpty : Bool) : Nat → Option Found
  | 0 => none
  | n + 1 =>
    match p.matchAt text pos mayBeEmpty with
    | some place => some ⟨pos, place⟩
    | none => p.searchUpTo text (pos + 1) true n

/-- The first match at or after a position; an empty one at the position itself only if it may. -/
def searchFrom (p : Pattern) (text : Array Char) (pos : Nat) (mayBeEmpty : Bool) : Option Found :=
  p.searchUpTo text pos mayBeEmpty (text.size + 1 - pos)

/-- The first match in a text. -/
def search (p : Pattern) (text : Array Char) : Option Found := p.searchFrom text 0 true

/-- The matches from a position on, at most so many. -/
def findAllFrom (p : Pattern) (text : Array Char) : Nat → Nat → Bool → List Found
  | 0, _, _ => []
  | fuel + 1, pos, mayBeEmpty =>
    match p.searchFrom text pos mayBeEmpty with
    | none => []
    | some f => f :: p.findAllFrom text fuel f.stop (f.stop != f.start)

/-- The matches in a text, each beginning where the one before it ended or later. -/
def findAll (p : Pattern) (text : Array Char) : List Found :=
  p.findAllFrom text (2 * text.size + 2) 0 true

/-- The text of a group of a match, if the group has matched. -/
def Found.group? (f : Found) (text : Array Char) (number : Nat) : Option String :=
  (f.place.span? number).map fun (start, stop) => String.ofList (text.extract start stop).toList

end Pattern

end Diagnosis
