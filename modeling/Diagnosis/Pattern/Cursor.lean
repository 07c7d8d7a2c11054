import Diagnosis.Pattern.Error

/-!
# Reading a pattern's text token by token

A token is a character, or a backslash with the character after it. A lone
backslash at the end is a fault as soon as everything before it is taken.
-/

namespace Diagnosis.Pattern

/-- A token of a pattern's text. -/
inductive Token where
  | plain (c : Char)
  | escaped (c : Char)
  deriving DecidableEq, Repr

/-- The characters of a token. -/
def Token.chars : Token → List Char
  | .plain c => [c]
  | .escaped c => ['\\', c]

/-- The text of a token. -/
def Token.text (t : Token) : String := String.ofList t.chars

/-- The number of characters of a token. -/
def Token.length : Token → Nat
  | .plain _ => 1
  | .escaped _ => 2

/-- The character of a token that has no backslash. -/
def Token.plain? : Token → Option Char
  | .plain c => some c
  | .escaped _ => none

/-- What is left of a pattern's text and the position where it begins. -/
structure Cursor where
  rest : List Char
  pos : Nat
  deriving Repr

namespace Cursor

/-- The token that stands here. -/
def token? (c : Cursor) : Option Token :=
  match c.rest with
  | [] => none
  | ['\\'] => none
  | '\\' :: x :: _ => some (.escaped x)
  | x :: _ => some (.plain x)

/-- A cursor, unless a lone backslash is all that is left. -/
def checked (c : Cursor) : Except Error Cursor :=
  match c.rest with
  | ['\\'] => .error (.place .escapeAtEnd c.pos)
  | _ => .ok c

/-- The beginning of a text. -/
def start (cs : List Char) : Except Error Cursor := checked ⟨cs, 0⟩

/-- Past the token that stands here. -/
def next (c : Cursor) : Except Error Cursor :=
  match c.token? with
  | some t => checked ⟨c.rest.drop t.length, c.pos + t.length⟩
  | none => .ok c

end Cursor

end Diagnosis.Pattern
