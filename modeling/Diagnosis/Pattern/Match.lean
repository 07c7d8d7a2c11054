import Diagnosis.Pattern.Node

/-!
# Matching

What it means for a node to match at a place of a text, with what has to match
after it as a continuation: ways are tried in order, and the first one whose
continuation succeeds counts. A repetition goes on only if its last round moved
or the least number of rounds is not yet reached, so matching always ends.
-/

namespace Diagnosis.Pattern

/-- A position in a text and where groups began and ended; group `n` from one has the marks
`2 n - 2` and `2 n - 1`. -/
structure Place where
  pos : Nat
  marks : Array (Option Nat)
  deriving DecidableEq, Repr, Inhabited

namespace Place

/-- The place so many characters on. -/
def forward (p : Place) (n : Nat) : Place := { p with pos := p.pos + n }

/-- The same marks at another position. -/
def moved (p : Place) (pos : Nat) : Place := { p with pos := pos }

/-- With the beginning of a group marked here. -/
def opens (p : Place) (number : Nat) : Place :=
  { p with marks := p.marks.setIfInBounds (2 * number - 2) (some p.pos) }

/-- With the end of a group marked here. -/
def closes (p : Place) (number : Nat) : Place :=
  { p with marks := p.marks.setIfInBounds (2 * number - 1) (some p.pos) }

/-- Where a group began and ended, if it has matched. -/
def span? (p : Place) (number : Nat) : Option (Nat × Nat) :=
  match p.marks[2 * number - 2]?.join, p.marks[2 * number - 1]?.join with
  | some start, some stop => if start ≤ stop then some (start, stop) else none
  | _, _ => none

end Place

/-- What still has to match. -/
abbrev Continuation := Place → Option Place

/-- Whether one more round is allowed after so many. -/
def below (most : Option Nat) (count : Nat) : Bool :=
  match most with
  | none => true
  | some n => count < n

/-- Rounds of a body, as many as possible first. `last` is where the last optional round began. -/
def greedily (body : Continuation → Continuation) (least : Nat) (most : Option Nat) (after : Continuation) :
    Nat → Nat → Option Nat → Continuation
  | 0, _, _, _ => none
  | fuel + 1, count, last, p =>
    if count < least then body (greedily body least most after fuel (count + 1) last) p
    else if below most count && last != some p.pos then
      match body (greedily body least most after fuel (count + 1) (some p.pos)) p with
      | some q => some q
      | none => after p
    else after p

/-- Rounds of a body, as few as possible first. -/
def reluctantly (body : Continuation → Continuation) (least : Nat) (most : Option Nat) (after : Continuation) :
    Nat → Nat → Option Nat → Continuation
  | 0, _, _, _ => none
  | fuel + 1, count, last, p =>
    if count < least then body (reluctantly body least most after fuel (count + 1) last) p
    else match after p with
      | some q => some q
      | none =>
        if below most count && last != some p.pos then
          body (reluctantly body least most after fuel (count + 1) (some p.pos)) p
        else none

/-- Rounds of a body, each in its first way, as many as there are. -/
def possessively (body : Continuation) (least : Nat) (most : Option Nat) :
    Nat → Nat → Option Nat → Continuation
  | 0, _, _, _ => none
  | fuel + 1, count, last, p =>
    if count < least then
      match body p with
      | some q => possessively body least most fuel (count + 1) last q
      | none => none
    else if below most count && last != some p.pos then
      match body p with
      | some q => possessively body least most fuel (count + 1) (some p.pos) q
      | none => some p
    else some p

/-- Whether the character at a position belongs to words; none does outside of the text. -/
def wordAt (text : Array Char) (asciiOnly : Bool) (pos : Nat) : Bool :=
  match text[pos]? with
  | some c => isWord asciiOnly c.toNat
  | none => false

/-- Whether a position is one that an anchor recognises. -/
def Anchor.holds (text : Array Char) (pos : Nat) : Anchor → Bool
  | .textStart => pos == 0
  | .lineStart => pos == 0 || text[pos - 1]? == some '\n'
  | .lastLineEnd => pos == text.size || (pos + 1 == text.size && text[pos]? == some '\n')
  | .lineEnd => pos == text.size || text[pos]? == some '\n'
  | .textEnd => pos == text.size
  | .wordEdge elsewhere asciiOnly =>
    text.size != 0 &&
      ((0 < pos && wordAt text asciiOnly (pos - 1)) != wordAt text asciiOnly pos) != elsewhere

/-- Whether two stretches of a text are the same letter by letter. -/
def sameStretch (text : Array Char) (folding : Folding) (a b : Nat) : Nat → Bool
  | 0 => true
  | n + 1 =>
    match text[a]?, text[b]? with
    | some x, some y =>
      folding.lower x.toNat == folding.lower y.toNat && sameStretch text folding (a + 1) (b + 1) n
    | _, _ => false

/-- More rounds than any repetition has from a position on. -/
def roundLimit (text : Array Char) (least pos : Nat) : Nat := least + (text.size - pos) + 2

/-- The first way to match a node here whose continuation succeeds. -/
def Node.run (text : Array Char) : Node → Continuation → Continuation
  | .empty, after, p => after p
  | .one t, after, p =>
    match text[p.pos]? with
    | some c => if t.accepts c.toNat then after (p.forward 1) else none
    | none => none
  | .anchor a, after, p => if a.holds text p.pos then after p else none
  | .seq first second, after, p => first.run text (second.run text after) p
  | .either first second, after, p =>
    match first.run text after p with
    | some q => some q
    | none => second.run text after p
  | .group number body, after, p => body.run text (fun q => after (q.closes number)) (p.opens number)
  | .again number folding, after, p =>
    match p.span? number with
    | none => none
    | some (start, stop) =>
      if sameStretch text folding start p.pos (stop - start) then after (p.forward (stop - start)) else none
  | .ifGroup number yes no, after, p =>
    if (p.span? number).isSome then yes.run text after p else no.run text after p
  | .ahead absent body, after, p =>
    match body.run text some p with
    | some q => if absent then none else after (q.moved p.pos)
    | none => if absent then after p else none
  | .behind absent least _ body, after, p =>
    if p.pos < least then (if absent then after p else none)
    else match body.run text some (p.moved (p.pos - least)) with
      | some q => if absent then none else after (q.moved p.pos)
      | none => if absent then after p else none
  | .atomic body, after, p =>
    match body.run text some p with
    | some q => after q
    | none => none
  | .many .greedy least most body, after, p =>
    greedily (body.run text) least most after (roundLimit text least p.pos) 0 none p
  | .many .reluctant least most body, after, p =>
    reluctantly (body.run text) least most after (roundLimit text least p.pos) 0 none p
  | .many .possessive least most body, after, p =>
    match possessively (body.run text some) least most (roundLimit text least p.pos) 0 none p with
    | some q => after q
    | none => none

end Diagnosis.Pattern
