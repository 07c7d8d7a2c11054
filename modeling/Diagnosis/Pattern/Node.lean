import Diagnosis.Text.Blank
import Diagnosis.Unicode.Case
import Diagnosis.Unicode.Digit
import Diagnosis.Unicode.Letter

/-!
# The parts of a pattern

What a pattern is made of once its text has been read, with every option
already applied: tests of one character, anchors, and the ways to put nodes
together.
-/

namespace Diagnosis.Pattern

open Diagnosis.Unicode

/-- Which letters count as the same. -/
inductive Folding where
  /-- Only equal ones. -/
  | exact
  /-- The two cases of the letters of ASCII. -/
  | ascii
  /-- All cases of all scripts. -/
  | full
  deriving DecidableEq, Repr, Inhabited

/-- The classes of characters that have names. -/
inductive Class where
  | digit
  | space
  | word
  deriving DecidableEq, Repr

/-- A named class or what lies outside of it, for ASCII alone or for all scripts. -/
structure Category where
  named : Class
  outside : Bool
  asciiOnly : Bool
  deriving DecidableEq, Repr

/-- One member of a set of characters. -/
inductive Member where
  | single (c : Nat)
  | span (low high : Nat)
  | category (k : Category)
  deriving DecidableEq, Repr

/-- A test of one character. -/
inductive Test where
  /-- Any character, line feeds only if so told. -/
  | any (lineFeed : Bool)
  /-- One character, or any other than it. -/
  | literal (c : Nat) (other : Bool) (folding : Folding)
  /-- A member of a set, or anything that is none. -/
  | set (members : List Member) (other : Bool) (folding : Folding)
  deriving DecidableEq, Repr

/-- A place that is recognised without taking a character. -/
inductive Anchor where
  | textStart
  | lineStart
  /-- The end of the text, or before a line feed that ends it. -/
  | lastLineEnd
  | lineEnd
  | textEnd
  /-- Between a word character and another one or none, or anywhere else. -/
  | wordEdge (elsewhere : Bool) (asciiOnly : Bool)
  deriving DecidableEq, Repr

/-- Which number of repetitions is tried first, and whether others are tried at all. -/
inductive Greed where
  | greedy
  | reluctant
  | possessive
  deriving DecidableEq, Repr

/-- A pattern whose options have been applied. -/
inductive Node where
  | empty
  | one (t : Test)
  | anchor (a : Anchor)
  | seq (first second : Node)
  | either (first second : Node)
  /-- Remembers where its part began and ended under a number. -/
  | group (number : Nat) (body : Node)
  /-- The text of a group again. -/
  | again (number : Nat) (folding : Folding)
  /-- One of two parts, by whether a group has matched. -/
  | ifGroup (number : Nat) (yes no : Node)
  /-- Looks at the text that follows. -/
  | ahead (absent : Bool) (body : Node)
  /-- Looks at the text before; the body takes from `least` to `most` characters. -/
  | behind (absent : Bool) (least most : Nat) (body : Node)
  /-- The first way its part matches, no other. -/
  | atomic (body : Node)
  | many (greed : Greed) (least : Nat) (most : Option Nat) (body : Node)
  deriving Repr, Inhabited

/-- Whether a character of ASCII is a letter, digit or underscore. -/
def isAsciiWord (c : Nat) : Bool :=
  (48 ≤ c && c ≤ 57) || (65 ≤ c && c ≤ 90) || (97 ≤ c && c ≤ 122) || c == 95

/-- Whether a character belongs to words. -/
def isWord (asciiOnly : Bool) (c : Nat) : Bool :=
  if asciiOnly then isAsciiWord c else c == 95 || isAlphanumeric c

/-- Whether a code point is a blank of ASCII. -/
def isAsciiSpace (c : Nat) : Bool := (9 ≤ c && c ≤ 13) || c == 32

/-- Membership in a class. -/
def Class.has (asciiOnly : Bool) (c : Nat) : Class → Bool
  | .digit => if asciiOnly then 48 ≤ c && c ≤ 57 else isDigit c
  | .space => if asciiOnly then isAsciiSpace c else Text.isBlank (Char.ofNat c)
  | .word => isWord asciiOnly c

/-- Membership in a category. -/
def Category.has (k : Category) (c : Nat) : Bool := k.named.has k.asciiOnly c != k.outside

/-- The lower case of the letters of ASCII. -/
def asciiLower (c : Nat) : Nat := if 65 ≤ c && c ≤ 90 then c + 32 else c

/-- Whether a code point is a letter of ASCII. -/
def isAsciiLetter (c : Nat) : Bool := (65 ≤ c && c ≤ 90) || (97 ≤ c && c ≤ 122)

/-- Whether a character is the same as another one up to case. -/
def sameLetter (folding : Folding) (pattern c : Nat) : Bool :=
  match folding with
  | .exact => c == pattern
  | .ascii => if isAsciiLetter pattern then asciiLower c == asciiLower pattern else c == pattern
  | .full =>
    if isCased pattern then
      toLower c == toLower pattern || (companions (toLower pattern)).contains (toLower c)
    else c == pattern

/-- Membership in a set member as it is written. -/
def Member.has (c : Nat) : Member → Bool
  | .single x => c == x
  | .span low high => low ≤ c && c ≤ high
  | .category k => k.has c

/-- Whether a member has letters with two cases. A member beyond the basic plane counts as if. -/
def Member.cased (folding : Folding) : Member → Bool
  | .single x => match folding with
    | .exact => false
    | .ascii => isAsciiLetter x
    | .full => isCased x || 0xFFFF < toLower x
  | .span low high => match folding with
    | .exact => false
    | .ascii => (max low 65 ≤ min high 90) || (max low 97 ≤ min high 122)
    | .full => anyCased low high || 0xFFFF < high
  | .category _ => false

/-- Whether a code point in lower case is the lower case of one in a closed range, or a companion
of such. -/
def spanReaches (low high c : Nat) : Bool :=
  let among (x : Nat) : Bool :=
    (low ≤ x && x ≤ high && toLower x == x) || (lowering.preimage x).any fun y => low ≤ y && y ≤ high
  among c || (companions c).any among

/-- Membership up to case of a code point in lower case. A single member beyond the basic plane
is compared as it is written. -/
def Member.hasLower (folding : Folding) (c : Nat) : Member → Bool
  | .single x => match folding with
    | .exact => c == x
    | .ascii => c == asciiLower x
    | .full =>
      if 0xFFFF < toLower x then c == x
      else c == toLower x || (companions (toLower x)).contains c
  | .span low high => match folding with
    | .exact => low ≤ c && c ≤ high
    | .ascii => (low ≤ c && c ≤ high && ! (65 ≤ c && c ≤ 90)) ||
        (97 ≤ c && c ≤ 122 && low ≤ c - 32 && c - 32 ≤ high)
    | .full => spanReaches low high c ||
        (0xFFFF < high && ((low ≤ c && c ≤ high) || (low ≤ toUpper c && toUpper c ≤ high)))
  | .category k => k.has c

/-- The lower case that a folding compares. -/
def Folding.lower (folding : Folding) (c : Nat) : Nat :=
  match folding with
  | .exact => c
  | .ascii => asciiLower c
  | .full => toLower c

/-- Whether a set has a character. -/
def setHas (members : List Member) (folding : Folding) (c : Nat) : Bool :=
  if members.any (·.cased folding) then members.any (·.hasLower folding (folding.lower c))
  else members.any (·.has c)

/-- Whether a character passes a test. -/
def Test.accepts (c : Nat) : Test → Bool
  | .any lineFeed => lineFeed || c != 10
  | .literal x other folding => sameLetter folding x c != other
  | .set members other folding => setHas members folding c != other

end Diagnosis.Pattern
