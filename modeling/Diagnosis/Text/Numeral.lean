import Diagnosis.Text.Blank
import Diagnosis.Unicode.Digit

/-!
# Whole numbers as people write them

A number may stand between blanks (the information separators of ASCII are not
blanks here), carry one sign, use the decimal digits of any script, and have
single underscores between digits. More than 4300 digits are refused, and not
written either.
-/

namespace Diagnosis.Text

open Diagnosis.Unicode (digitValue?)

/-- The most digits a number may have. -/
def digitLimit : Nat := 4300

/-- Whether a whole number has few enough digits to be written. -/
def isShort (n : Int) : Bool := n.natAbs < Nat.pow 10 digitLimit

/-- The values of digits that may have single underscores between them; none if there is no
digit, or something else stands there. -/
def digitGroups? : List Char → Option (List Nat)
  | [] => none
  | [c] => (digitValue? c.toNat).map ([·])
  | c :: '_' :: rest => do
    let d ← digitValue? c.toNat
    return d :: (← digitGroups? rest)
  | c :: rest => do
    let d ← digitValue? c.toNat
    return d :: (← digitGroups? rest)

/-- The number that decimal digits spell. -/
def ofDigits (ds : List Nat) : Nat := ds.foldl (fun n d => 10 * n + d) 0

/-- The number a text spells, without a sign. -/
def readNat? (cs : List Char) : Option Nat := do
  let ds ← digitGroups? cs
  if ds.length ≤ digitLimit then some (ofDigits ds) else none

/-- The blanks that may stand around a number. -/
def aroundNumber (c : Char) : Bool := isBlank c && ! (28 ≤ c.val && c.val ≤ 31)

/-- The whole number a text spells. -/
def readInt? (cs : List Char) : Option Int :=
  match ((cs.dropWhile aroundNumber).reverse.dropWhile aroundNumber).reverse with
  | '-' :: rest => (readNat? rest).map fun n => -(n : Int)
  | '+' :: rest => (readNat? rest).map Int.ofNat
  | rest => (readNat? rest).map Int.ofNat

end Diagnosis.Text
