import Diagnosis.Pattern.Cursor
import Diagnosis.Pattern.Search
import Diagnosis.Text.Numeral
import Diagnosis.Unicode.Identifier
import Diagnosis.Unicode.Name

/-!
# Reading patterns

The grammar of patterns: alternatives of sequences of items, where an item may
be followed by a quantifier. Options are applied to the nodes as they are made.
Every construct consumes at least one token, so a bound on the depth and the
number of steps follows from the length of the text.
-/

namespace Diagnosis.Pattern

open Diagnosis.Text (hexValue? readInt?)
open Diagnosis.Unicode (isIdentifier isLetter named?)

/-- The options of a part of a pattern. -/
structure Mode where
  ignoreCase : Bool := false
  multiline : Bool := false
  dotAll : Bool := false
  verbose : Bool := false
  asciiOnly : Bool := false
  deriving DecidableEq, Repr, Inhabited

/-- The letters that set options. -/
inductive Flag where
  | ignoreCase
  | locale
  | multiline
  | dotAll
  | verbose
  | ascii
  | template
  | unicode
  deriving DecidableEq, Repr

/-- The option of a letter. -/
def Flag.of? : Char → Option Flag
  | 'i' => some .ignoreCase
  | 'L' => some .locale
  | 'm' => some .multiline
  | 's' => some .dotAll
  | 'x' => some .verbose
  | 'a' => some .ascii
  | 't' => some .template
  | 'u' => some .unicode
  | _ => none

/-- Whether an option says which characters letters are. -/
def Flag.isType : Flag → Bool
  | .ascii | .locale | .unicode => true
  | _ => false

/-- How letters compare in a mode. -/
def Mode.folding (m : Mode) : Folding :=
  if ! m.ignoreCase then .exact else if m.asciiOnly then .ascii else .full

/-- A mode with an option turned on. -/
def Mode.on (m : Mode) : Flag → Mode
  | .ignoreCase => { m with ignoreCase := true }
  | .multiline => { m with multiline := true }
  | .dotAll => { m with dotAll := true }
  | .verbose => { m with verbose := true }
  | .ascii => { m with asciiOnly := true }
  | .unicode => { m with asciiOnly := false }
  | .locale | .template => m

/-- A mode with an option turned off. -/
def Mode.off (m : Mode) : Flag → Mode
  | .ignoreCase => { m with ignoreCase := false }
  | .multiline => { m with multiline := false }
  | .dotAll => { m with dotAll := false }
  | .verbose => { m with verbose := false }
  | _ => m

/-- The least and the greatest number of characters that a part takes. -/
structure Width where
  least : Nat
  most : Nat
  deriving DecidableEq, Repr, Inhabited

namespace Width

/-- Widths stop growing here. -/
def limit : Nat := Nat.pow 2 64

/-- No character. -/
def zero : Width := ⟨0, 0⟩

/-- One character. -/
def one : Width := ⟨1, 1⟩

/-- No more than the limit. -/
def capped (w : Width) : Width := ⟨min w.least limit, min w.most limit⟩

/-- One part after the other. -/
def add (a b : Width) : Width := ⟨a.least + b.least, a.most + b.most⟩

/-- One part or the other. -/
def either (a b : Width) : Width := ⟨min a.least b.least, max a.most b.most⟩

/-- So many rounds of a part. -/
def times (w : Width) (least : Nat) (most : Option Nat) : Width :=
  ⟨w.least * least, match most with
    | some n => w.most * n
    | none => if w.most = 0 then 0 else limit⟩

end Width

/-- What matters of an item for a quantifier that follows it. -/
inductive ItemKind where
  | anchor
  | repetition
  | other
  deriving DecidableEq, Repr

/-- A node with its width. -/
structure Item where
  node : Node
  width : Width
  kind : ItemKind := .other
  deriving Repr, Inhabited

/-- Items one after the other as one. -/
def Item.sequence : List Item → Item
  | [] => ⟨.empty, .zero, .other⟩
  | [i] => ⟨i.node, i.width.capped, .other⟩
  | i :: rest =>
    let r := Item.sequence rest
    ⟨.seq i.node r.node, (i.width.add r.width).capped, .other⟩

/-- Alternatives as one item. -/
def Item.alternatives : List Item → Item
  | [] => ⟨.empty, .zero, .other⟩
  | [i] => i
  | i :: rest =>
    let r := Item.alternatives rest
    ⟨.either i.node r.node, i.width.either r.width, .other⟩

/-- What a reader of patterns keeps. -/
structure State where
  cursor : Cursor
  /-- The options that hold everywhere. -/
  globals : Mode
  /-- Whether options for ASCII alone, for all scripts, and for templates have been set. -/
  asciiSet : Bool := false
  unicodeSet : Bool := false
  templateSet : Bool := false
  /-- The widths of the groups so far; none while a group is open. -/
  groups : Array (Option Width) := #[]
  names : List (String × Nat) := []
  /-- How many groups there were at the outermost lookbehind that is open. -/
  behindFrom : Option Nat := none
  /-- Groups that conditions ask for, with the positions that first do. -/
  asked : List (Nat × Nat) := []

/-- A step of reading. -/
abbrev Reader := StateT State (Except Error)

namespace Reader

/-- The token that stands here. -/
def peek : Reader (Option Token) := return (← get).cursor.token?

/-- The position of the token that stands here. -/
def pos : Reader Nat := return (← get).cursor.pos

/-- Stops at a fault so many characters before the position. -/
def fail {α : Type} (what : Fault) (back : Nat) : Reader α := do
  throw (.place what ((← pos) - back))

/-- Stops at a fault at a position. -/
def failAt {α : Type} (what : Fault) (position : Nat) : Reader α := throw (.place what position)

/-- Takes the token that stands here. -/
def take : Reader (Option Token) := do
  let s ← get
  let c ← s.cursor.next
  set { s with cursor := c }
  return s.cursor.token?

/-- Takes a character if it stands here. -/
def accept (c : Char) : Reader Bool := do
  if (← peek) == some (.plain c) then
    let _ ← take
    return true
  return false

/-- Takes up to so many plain characters of a class. -/
def takeWhile (p : Char → Bool) : Nat → Reader (List Char)
  | 0 => return []
  | n + 1 => do
    match ← peek with
    | some (.plain c) =>
      if p c then
        let _ ← take
        return c :: (← takeWhile p n)
      else return []
    | _ => return []

/-- Takes the text up to a terminator, and the terminator. -/
def takeUntil (terminator : Char) (what : String) : Nat → List Char → Reader (List Char)
  | 0, _ => fail .endOfPattern 0
  | fuel + 1, read => do
    match ← take with
    | none =>
      if read.isEmpty then fail (.missingName what) 0
      else fail (.unterminatedName terminator) read.length
    | some t =>
      if t == .plain terminator then
        if read.isEmpty then fail (.missingName what) 1 else return read
      else takeUntil terminator what fuel (read ++ t.chars)

/-- The text up to a terminator, which is taken too. -/
def name (terminator : Char) (what : String) : Reader (List Char) := do
  takeUntil terminator what ((← get).cursor.rest.length + 1) []

/-- Whether a group has been closed. -/
def isClosed (number : Nat) : Reader Bool := do
  return ((← get).groups[number - 1]?.join).isSome

/-- Inside a lookbehind, only groups that were closed before it began may be referred to. -/
def checkBehind (number : Nat) : Reader Unit := do
  match (← get).behindFrom with
  | none => return
  | some count =>
    if ! (← isClosed number) then fail .openGroup 0
    if count < number then fail .sameLookbehind 0

end Reader

open Reader

/-- Whether a character is a digit below eight. -/
def isOctal (c : Char) : Bool := '0' ≤ c && c ≤ '7'

/-- The number that digits below eight spell. -/
def octalValue (ds : List Char) : Nat := ds.foldl (fun n d => 8 * n + (d.toNat - 48)) 0

/-- The number that decimal digits spell. -/
def decimalValue (ds : List Char) : Nat := ds.foldl (fun n d => 10 * n + (d.toNat - 48)) 0

/-- The number that hexadecimal digits spell. -/
def hexadecimalValue (ds : List Char) : Nat := ds.foldl (fun n d => 16 * n + (hexValue? d).getD 0) 0

/-- The category that a letter after a backslash names. -/
def categoryOf? (m : Mode) : Char → Option Category
  | 'd' => some ⟨.digit, false, m.asciiOnly⟩
  | 'D' => some ⟨.digit, true, m.asciiOnly⟩
  | 's' => some ⟨.space, false, m.asciiOnly⟩
  | 'S' => some ⟨.space, true, m.asciiOnly⟩
  | 'w' => some ⟨.word, false, m.asciiOnly⟩
  | 'W' => some ⟨.word, true, m.asciiOnly⟩
  | _ => none

/-- The control character or backslash that an escape stands for. -/
def controlOf? : Char → Option Nat
  | 'a' => some 7
  | 'b' => some 8
  | 'f' => some 12
  | 'n' => some 10
  | 'r' => some 13
  | 't' => some 9
  | 'v' => some 11
  | '\\' => some 92
  | _ => none

/-- A code point of so many hexadecimal digits. -/
def readHexEscape (letter : Char) (size : Nat) : Reader Nat := do
  let ds ← takeWhile (fun c => (hexValue? c).isSome) size
  if ds.length ≠ size then
    fail (.incompleteEscape (String.ofList ('\\' :: letter :: ds))) (2 + ds.length)
  let n := hexadecimalValue ds
  if 0x7FFFFFFF < n then throw .codePointLimit
  if 0x10FFFF < n then fail (.badEscape (String.ofList ('\\' :: letter :: ds))) (2 + ds.length)
  return n

/-- A character by its name in braces. -/
def readNamed : Reader Nat := do
  if ! (← accept '\x7b') then fail .missingOpenBrace 0
  let cs ← name '\x7d' "character name"
  match named? (String.ofList cs) with
  | some c => return c
  | none => fail (.undefinedCharacter (String.ofList cs)) (cs.length + 4)

/-- The code point of an escape whose letter says how it is spelled; none for other letters. -/
def readSpelled? (c : Char) : Reader (Option Nat) := do
  if c == 'x' then return some (← readHexEscape c 2)
  if c == 'u' then return some (← readHexEscape c 4)
  if c == 'U' then return some (← readHexEscape c 8)
  if c == 'N' then return some (← readNamed)
  return none

/-- An escape that stands for the character after the backslash, which may be no letter. -/
def readItself (c : Char) : Reader Nat := do
  if c.isAlpha then fail (.badEscape (String.ofList ['\\', c])) 2
  return c.toNat

/-- A member of a set that a backslash and a character begin. -/
def readSetEscape (m : Mode) (c : Char) : Reader Member := do
  if let some n := controlOf? c then return .single n
  if let some k := categoryOf? m c then return .category k
  if let some n ← readSpelled? c then return .single n
  if isOctal c then
    let ds := c :: (← takeWhile isOctal 2)
    if 0o377 < octalValue ds then fail (.octalEscape (String.ofList ('\\' :: ds))) (1 + ds.length)
    return .single (octalValue ds)
  if c.isDigit then fail (.badEscape (String.ofList ['\\', c])) 2
  return .single (← readItself c)

/-- An item of one character. -/
def Item.ofTest (t : Test) : Item := ⟨.one t, .one, .other⟩

/-- An item of one given character. -/
def Item.literal (m : Mode) (c : Nat) : Item := .ofTest (.literal c false m.folding)

/-- An item of an anchor. -/
def Item.anchored (a : Anchor) : Item := ⟨.anchor a, .zero, .anchor⟩

/-- A reference to a group by the digits after a backslash, or a character by three digits below
eight. -/
def readReference (m : Mode) (first : Char) : Reader Item := do
  let second ← takeWhile Char.isDigit 1
  let third ← if isOctal first && second.any isOctal then takeWhile isOctal 1 else pure []
  let ds := first :: second ++ third
  if ! third.isEmpty then
    if 0o377 < octalValue ds then fail (.octalEscape (String.ofList ('\\' :: ds))) (1 + ds.length)
    return .literal m (octalValue ds)
  let number := decimalValue ds
  match (← get).groups[number - 1]? with
  | none => fail (.groupReference number) ds.length
  | some none => fail .openGroup (1 + ds.length)
  | some (some width) =>
    checkBehind number
    return ⟨.again number m.folding, width, .other⟩

/-- An item that a backslash and a character begin. -/
def readEscape (m : Mode) (c : Char) : Reader Item := do
  if c == 'A' then return .anchored .textStart
  if c == 'Z' then return .anchored .textEnd
  if c == 'b' then return .anchored (.wordEdge false m.asciiOnly)
  if c == 'B' then return .anchored (.wordEdge true m.asciiOnly)
  if let some k := categoryOf? m c then return .ofTest (.set [.category k] false m.folding)
  if let some n := controlOf? c then return .literal m n
  if let some n ← readSpelled? c then return .literal m n
  if c == '0' then
    let ds ← takeWhile isOctal 2
    return .literal m (octalValue ds)
  if c.isDigit then readReference m c
  else return .literal m (← readItself c)

/-- One end of a range or a member of a set, from its first token. -/
def readMember (m : Mode) : Token → Reader Member
  | .plain c => return .single c.toNat
  | .escaped c => readSetEscape m c

/-- The members of a set up to its closing bracket; a bracket that comes first is a member. -/
def readMembers (m : Mode) (start : Nat) : Nat → List Member → Reader (List Member)
  | 0, _ => failAt .unterminatedSet start
  | fuel + 1, read => do
    match ← take with
    | none => failAt .unterminatedSet start
    | some this =>
      if this == .plain ']' && ! read.isEmpty then return read
      let low ← readMember m this
      if ← accept '-' then
        match ← take with
        | none => failAt .unterminatedSet start
        | some that =>
          if that == .plain ']' then return read ++ [low, .single '-'.toNat]
          let high ← readMember m that
          match low, high with
          | .single a, .single b =>
            if b < a then fail (.badRange this.text that.text) (this.length + 1 + that.length)
            readMembers m start fuel (read ++ [.span a b])
          | _, _ => fail (.badRange this.text that.text) (this.length + 1 + that.length)
      else readMembers m start fuel (read ++ [low])

/-- A set whose opening bracket has been taken. -/
def readSet (m : Mode) : Reader Item := do
  let start := (← pos) - 1
  let other ← accept '^'
  let members ← readMembers m start ((← get).cursor.rest.length + 1) []
  match members.eraseDups with
  | [.single c] => return .ofTest (.literal c other m.folding)
  | members => return .ofTest (.set members other m.folding)

/-- The bounds of a quantifier. -/
structure Bounds where
  least : Nat
  most : Option Nat

/-- Counts stop below this one. -/
def countLimit : Nat := 4294967295

/-- The number that digits spell, within the limits for repetitions. -/
def readCount (ds : List Char) : Reader Nat := do
  if 4300 < ds.length then throw (.digitLimit ds.length)
  let n := decimalValue ds
  if countLimit ≤ n then throw .repetitionLimit
  return n

/-- The bounds in braces after the opening brace; none if it is no quantifier, and nothing has
been taken then. -/
def readBounds? : Reader (Option Bounds) := do
  let here ← get
  if (← peek) == some (.plain '\x7d') then return none
  let limit := here.cursor.rest.length
  let low ← takeWhile Char.isDigit limit
  let comma ← accept ','
  let high ← if comma then takeWhile Char.isDigit limit else pure low
  if ! (← accept '\x7d') then
    set here
    return none
  let least ← if low.isEmpty then pure 0 else readCount low
  if high.isEmpty then return some ⟨least, none⟩
  let most ← readCount high
  if most < least then failAt .repeatOrder here.cursor.pos
  return some ⟨least, some most⟩

/-- The word for a kind of repetition. -/
def Greed.operator : Greed → String
  | .greedy => "MAX_REPEAT"
  | .reluctant => "MIN_REPEAT"
  | .possessive => "POSSESSIVE_REPEAT"

/-- The kind of repetition that follows a quantifier. -/
def readGreed : Reader Greed := do
  if ← accept '?' then return .reluctant
  if ← accept '+' then return .possessive
  return .greedy

/-- Repeats the last of some items, given last first. `position` is where its quantifier stands. -/
def repeatLast (b : Bounds) (position : Nat) (items : List Item) : Reader (List Item) := do
  match items with
  | [] => failAt .nothingToRepeat position
  | i :: rest =>
    if i.kind == .anchor then failAt .nothingToRepeat position
    if i.kind == .repetition then failAt .multipleRepeat position
    let greed ← readGreed
    return ⟨.many greed b.least b.most i.node, i.width.times b.least b.most, .repetition⟩ :: rest

/-- Option letters up to one of the closing characters. -/
structure FlagChange where
  on : List Flag
  off : List Flag

/-- What ends a run of option letters. -/
def flagAfter (closing : List Char) (missing : Fault) : Reader (Char ⊕ Flag) := do
  match ← take with
  | none => fail missing 0
  | some t =>
    match t with
    | .plain c =>
      if closing.contains c then return .inl c
      match Flag.of? c with
      | some f => return .inr f
      | none => fail (if isLetter c.toNat then .unknownFlag else missing) 1
    | .escaped _ => fail missing 2

/-- The options turned on from a letter on, and the character after them. -/
def readFlagsOn : Nat → Flag → List Flag → Reader (List Flag × Char)
  | 0, _, _ => fail .flagEnd 0
  | fuel + 1, flag, read => do
    if flag == .locale then fail .localeFlag 0
    let read := flag :: read
    if flag.isType && read.any (fun f => f.isType && f != flag) then fail .incompatibleFlags 0
    match ← flagAfter [')', '-', ':'] .flagEnd with
    | .inl c => return (read, c)
    | .inr f => readFlagsOn fuel f read

/-- The options turned off from a letter on; a colon ends them. -/
def readFlagsOff : Nat → Flag → List Flag → Reader (List Flag)
  | 0, _, _ => fail .missingColon 0
  | fuel + 1, flag, read => do
    if flag.isType then fail .typeFlagOff 0
    let read := flag :: read
    match ← flagAfter [':'] .missingColon with
    | .inl _ => return read
    | .inr f => readFlagsOff fuel f read

/-- The first option turned off. -/
def readFirstOff : Reader Flag := do
  match ← flagAfter [] .missingFlag with
  | .inl _ => fail .missingFlag 1
  | .inr f => return f

/-- Option letters from a first one (or none, after a hyphen) on; none if they hold everywhere,
and they are kept then. -/
def readFlags? (first : Option Flag) : Reader (Option FlagChange) := do
  let limit := (← get).cursor.rest.length + 1
  let (on, stop) ← match first with
    | some f => readFlagsOn limit f []
    | none => pure ([], '-')
  if stop == ')' then
    modify fun s => { s with
      globals := on.foldl Mode.on s.globals
      asciiSet := s.asciiSet || on.contains .ascii
      unicodeSet := s.unicodeSet || on.contains .unicode
      templateSet := s.templateSet || on.contains .template }
    return none
  if on.contains .template then fail .globalFlagOn 1
  let off ← if stop == '-' then do readFlagsOff limit (← readFirstOff) [] else pure []
  if off.contains .template then fail .globalFlagOff 1
  if on.any off.contains then fail .flagOnAndOff 1
  return some ⟨on, off⟩

/-- A group that begins here gets the next number, and its name if it has one. -/
def openGroup (name : Option String) : Reader Nat := do
  let s ← get
  let number := s.groups.size + 1
  let names ← match name with
    | none => pure s.names
    | some n =>
      match s.names.lookup n with
      | some earlier => fail (.nameTaken n number earlier) (n.length + 1)
      | none => pure ((n, number) :: s.names)
  set { s with groups := s.groups.push none, names := names }
  return number

/-- A group that ends here takes so many characters. -/
def closeGroup (number : Nat) (width : Width) : Reader Unit :=
  modify fun s => { s with groups := s.groups.setIfInBounds (number - 1) (some width) }

/-- Passes a comment up to its closing parenthesis. -/
def skipComment (start : Nat) : Nat → Reader Unit
  | 0 => failAt .unterminatedComment start
  | fuel + 1 => do
    match ← take with
    | none => failAt .unterminatedComment start
    | some t => if t == .plain ')' then return else skipComment start fuel

/-- Passes a comment up to the end of its line. -/
def skipLine : Nat → Reader Unit
  | 0 => return
  | fuel + 1 => do
    match ← take with
    | none => return
    | some t => if t == .plain '\n' then return else skipLine fuel

/-- The number of the group that a condition asks for, by its name or number. -/
def readCondition : Reader Nat := do
  let cs ← name ')' "group name"
  let back := cs.length + 1
  if isIdentifier cs then
    match (← get).names.lookup (String.ofList cs) with
    | some number =>
      checkBehind number
      return number
    | none => fail (.unknownName (String.ofList cs)) back
  else
    match readInt? cs with
    | none => fail (.badName (String.ofList cs)) back
    | some n =>
      if n < 0 then fail (.badName (String.ofList cs)) back
      if n = 0 then fail .groupZero back
      let number := n.toNat
      if 1073741823 ≤ number then fail (.groupReference number) back
      let position := (← pos) - back
      modify fun s =>
        if (s.asked.lookup number).isSome then s else { s with asked := s.asked ++ [(number, position)] }
      checkBehind number
      return number

/-- Inside a lookbehind, what is read may refer only to groups closed before. -/
def insideBehind {α : Type} (behind : Bool) (body : Reader α) : Reader α := do
  let before := (← get).behindFrom
  if behind && before.isNone then modify fun s => { s with behindFrom := some s.groups.size }
  let r ← body
  if behind && before.isNone then modify fun s => { s with behindFrom := none }
  return r

/-- Takes the parenthesis that closes a construct begun at a position. -/
def closeAt (start : Nat) : Reader Unit := do
  if ! (← accept ')') then failAt .unterminatedGroup start

/-- An item that looks at the text around the current position. -/
def Item.look (behind absent : Bool) (body : Item) : Item :=
  ⟨if behind then .behind absent body.width.least body.width.most body.node else .ahead absent body.node,
    .zero, .other⟩

/-- What a construct in parentheses turned out to be. -/
inductive Construct where
  /-- An item. -/
  | item (i : Item)
  /-- Nothing: a comment. -/
  | nothing
  /-- Options that hold everywhere. -/
  | options

/-- How a group is read: whether it captures, under which name, in which mode, and whether its
first way to match is the only one. -/
structure GroupForm where
  captures : Bool
  name : Option String
  mode : Mode
  atomic : Bool

/-- The mode of a group whose options change. -/
def Mode.change (m : Mode) (c : FlagChange) : Mode := c.off.foldl Mode.off (c.on.foldl Mode.on m)

mutual
/-- Alternatives up to a closing parenthesis or the end. -/
def readAlternatives (mode : Mode) (nested : Bool) : Nat → List Item → Reader Item
  | 0, _ => fail .endOfPattern 0
  | fuel + 1, read => do
    let mode ← if nested then pure mode else pure (← get).globals
    let i ← readSequence mode (! nested && read.isEmpty) fuel []
    if ← accept '|' then readAlternatives mode nested fuel (i :: read)
    else return .alternatives (i :: read).reverse
/-- Items up to a vertical bar, a closing parenthesis or the end; those read come last first.
`first` says that options for everything may still be set. -/
def readSequence (mode : Mode) (first : Bool) : Nat → List Item → Reader Item
  | 0, _ => fail .endOfPattern 0
  | fuel + 1, read => do
    match ← peek with
    | none => return .sequence read.reverse
    | some (.escaped c) =>
      let _ ← take
      let i ← readEscape mode c
      readSequence mode first fuel (i :: read)
    | some (.plain c) =>
      if c == '|' || c == ')' then return .sequence read.reverse
      let start ← pos
      let _ ← take
      if mode.verbose && isAsciiSpace c.toNat then readSequence mode first fuel read
      else if mode.verbose && c == '#' then
        skipLine ((← get).cursor.rest.length + 1)
        readSequence mode first fuel read
      else if c == '[' then
        let i ← readSet mode
        readSequence mode first fuel (i :: read)
      else if c == '?' then
        let read ← repeatLast ⟨0, some 1⟩ start read
        readSequence mode first fuel read
      else if c == '*' then
        let read ← repeatLast ⟨0, none⟩ start read
        readSequence mode first fuel read
      else if c == '+' then
        let read ← repeatLast ⟨1, none⟩ start read
        readSequence mode first fuel read
      else if c == '\x7b' then
        match ← readBounds? with
        | some b =>
          let read ← repeatLast b start read
          readSequence mode first fuel read
        | none => readSequence mode first fuel (.literal mode c.toNat :: read)
      else if c == '.' then readSequence mode first fuel (.ofTest (.any mode.dotAll) :: read)
      else if c == '^' then
        readSequence mode first fuel (.anchored (if mode.multiline then .lineStart else .textStart) :: read)
      else if c == '$' then
        readSequence mode first fuel (.anchored (if mode.multiline then .lineEnd else .lastLineEnd) :: read)
      else if c == '(' then
        match ← readConstruct mode start fuel with
        | .item i => readSequence mode first fuel (i :: read)
        | .nothing => readSequence mode first fuel read
        | .options =>
          if ! first || ! read.isEmpty then failAt .lateFlags start
          readSequence (← get).globals first fuel read
      else readSequence mode first fuel (.literal mode c.toNat :: read)
/-- What an opening parenthesis begins. -/
def readConstruct (mode : Mode) (start : Nat) : Nat → Reader Construct
  | 0 => fail .endOfPattern 0
  | fuel + 1 => do
    if ! (← accept '?') then return .item (← readGroup ⟨true, none, mode, false⟩ start fuel)
    match ← take with
    | none => fail .endOfPattern 0
    | some (.plain 'P') =>
      if ← accept '<' then
        let cs ← name '>' "group name"
        if ! isIdentifier cs then fail (.badName (String.ofList cs)) (cs.length + 1)
        return .item (← readGroup ⟨true, some (String.ofList cs), mode, false⟩ start fuel)
      else if ← accept '=' then
        let cs ← name ')' "group name"
        if ! isIdentifier cs then fail (.badName (String.ofList cs)) (cs.length + 1)
        match (← get).names.lookup (String.ofList cs) with
        | none => fail (.unknownName (String.ofList cs)) (cs.length + 1)
        | some number =>
          match (← get).groups[number - 1]?.join with
          | none => fail .openGroup (cs.length + 1)
          | some width =>
            checkBehind number
            return .item ⟨.again number mode.folding, width, .other⟩
      else
        match ← take with
        | none => fail .endOfPattern 0
        | some t => fail (.unknownExtension ("P" ++ t.text)) (t.length + 2)
    | some (.plain ':') => return .item (← readGroup ⟨false, none, mode, false⟩ start fuel)
    | some (.plain '>') => return .item (← readGroup ⟨false, none, mode, true⟩ start fuel)
    | some (.plain '#') =>
      skipComment start ((← get).cursor.rest.length + 1)
      return .nothing
    | some (.plain '=') => return .item (← readLook mode false false start fuel)
    | some (.plain '!') => return .item (← readLook mode false true start fuel)
    | some (.plain '<') =>
      match ← take with
      | none => fail .endOfPattern 0
      | some (.plain '=') => return .item (← readLook mode true false start fuel)
      | some (.plain '!') => return .item (← readLook mode true true start fuel)
      | some t => fail (.unknownExtension ("<" ++ t.text)) (t.length + 2)
    | some (.plain '(') =>
      let number ← readCondition
      let yes ← readSequence mode false fuel []
      if ← accept '|' then
        let no ← readSequence mode false fuel []
        if (← peek) == some (.plain '|') then fail .thirdBranch 0
        closeAt start
        return .item ⟨.ifGroup number yes.node no.node, yes.width.either no.width, .other⟩
      else
        closeAt start
        return .item ⟨.ifGroup number yes.node .empty, yes.width.either .zero, .other⟩
    | some t =>
      let flag := t.plain?.bind Flag.of?
      if flag.isSome || t == .plain '-' then
        match ← readFlags? flag with
        | none => return .options
        | some change => return .item (← readGroup ⟨false, none, mode.change change, false⟩ start fuel)
      else fail (.unknownExtension t.text) (t.length + 1)
/-- The contents of a group and its closing parenthesis. -/
def readGroup (form : GroupForm) (start : Nat) : Nat → Reader Item
  | 0 => fail .endOfPattern 0
  | fuel + 1 => do
    let number ← if form.captures then some <$> openGroup form.name else pure none
    let body ← readAlternatives form.mode true fuel []
    closeAt start
    match number with
    | some n =>
      closeGroup n body.width
      return ⟨.group n body.node, body.width, .other⟩
    | none => return ⟨if form.atomic then .atomic body.node else body.node, body.width, .other⟩
/-- The contents of a lookahead or lookbehind and its closing parenthesis. -/
def readLook (mode : Mode) (behind absent : Bool) (start : Nat) : Nat → Reader Item
  | 0 => fail .endOfPattern 0
  | fuel + 1 => do
    let body ← insideBehind behind (readAlternatives mode true fuel [])
    closeAt start
    return .look behind absent body
end

/-- What is wrong with a node once everything has been read: a lookbehind of different lengths or
beyond the limit, or a repetition in a template. What stands first in the pattern counts. -/
def Node.refusal? (template : Bool) : Node → Option Error
  | .empty | .one _ | .anchor _ | .again _ _ => none
  | .seq a b | .either a b | .ifGroup _ a b =>
    match a.refusal? template with
    | some e => some e
    | none => b.refusal? template
  | .group _ a | .ahead _ a | .atomic a => a.refusal? template
  | .behind _ least most a =>
    if countLimit < least then some .lookbehindFar
    else if least ≠ most then some .lookbehindWidth
    else a.refusal? template
  | .many greed _ _ a => if template then some (.templateRepeat greed.operator) else a.refusal? template

/-- Reads a whole pattern. -/
def readWhole : Reader Pattern := do
  let i ← readAlternatives {} false (4 * (← get).cursor.rest.length + 4) []
  let s ← get
  if s.asciiSet && s.unicodeSet then throw .asciiAndUnicode
  if (← peek).isSome then fail .unbalanced 0
  for (number, position) in s.asked do
    if s.groups.size < number then failAt (.groupReference number) position
  match i.node.refusal? s.templateSet with
  | some e => throw e
  | none => return ⟨i.node, s.groups.size⟩

/-- Reads a pattern in which line anchors stand at every line. -/
def ofChars (cs : List Char) : Except Error Pattern := do
  let c ← Cursor.start cs
  let (p, _) ← readWhole.run { cursor := c, globals := { multiline := true } }
  return p

end Diagnosis.Pattern
