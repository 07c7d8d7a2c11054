import Diagnosis.Text.Digits
import Diagnosis.Text.Quoted

/-!
# Why a pattern is refused

Most faults are found at a position of the pattern's text, which the message
tells; when the text has several lines it tells line and column as well.
-/

namespace Diagnosis.Pattern

open Diagnosis.Text (decimal quotedText)

/-- What is wrong with the text of a pattern. -/
inductive Fault where
  | escapeAtEnd
  | endOfPattern
  | missingOpenBrace
  | missingName (what : String)
  | unterminatedName (terminator : Char)
  | badName (name : String)
  | unknownName (name : String)
  | nameTaken (name : String) (number earlier : Nat)
  | openGroup
  | sameLookbehind
  | groupReference (number : Nat)
  | groupZero
  | incompleteEscape (escape : String)
  | badEscape (escape : String)
  | octalEscape (escape : String)
  | undefinedCharacter (name : String)
  | unterminatedSet
  | badRange (low high : String)
  | nothingToRepeat
  | multipleRepeat
  | repeatOrder
  | unterminatedGroup
  | unterminatedComment
  | unknownExtension (text : String)
  | thirdBranch
  | unbalanced
  | lateFlags
  | localeFlag
  | incompatibleFlags
  | flagEnd
  | unknownFlag
  | missingFlag
  | missingColon
  | globalFlagOn
  | globalFlagOff
  | typeFlagOff
  | flagOnAndOff
  deriving DecidableEq, Repr

/-- The words for a fault. -/
def Fault.message : Fault → String
  | .escapeAtEnd => "bad escape (end of pattern)"
  | .endOfPattern => "unexpected end of pattern"
  | .missingOpenBrace => "missing \x7b"
  | .missingName what => "missing " ++ what
  | .unterminatedName terminator => "missing " ++ terminator.toString ++ ", unterminated name"
  | .badName name => "bad character in group name " ++ quotedText name
  | .unknownName name => "unknown group name " ++ quotedText name
  | .nameTaken name number earlier =>
    "redefinition of group name " ++ quotedText name ++ " as group " ++ decimal number ++
      "; was group " ++ decimal earlier
  | .openGroup => "cannot refer to an open group"
  | .sameLookbehind => "cannot refer to group defined in the same lookbehind subpattern"
  | .groupReference number => "invalid group reference " ++ decimal number
  | .groupZero => "bad group number"
  | .incompleteEscape escape => "incomplete escape " ++ escape
  | .badEscape escape => "bad escape " ++ escape
  | .octalEscape escape => "octal escape value " ++ escape ++ " outside of range 0-0o377"
  | .undefinedCharacter name => "undefined character name " ++ quotedText name
  | .unterminatedSet => "unterminated character set"
  | .badRange low high => "bad character range " ++ low ++ "-" ++ high
  | .nothingToRepeat => "nothing to repeat"
  | .multipleRepeat => "multiple repeat"
  | .repeatOrder => "min repeat greater than max repeat"
  | .unterminatedGroup => "missing ), unterminated subpattern"
  | .unterminatedComment => "missing ), unterminated comment"
  | .unknownExtension text => "unknown extension ?" ++ text
  | .thirdBranch => "conditional backref with more than two branches"
  | .unbalanced => "unbalanced parenthesis"
  | .lateFlags => "global flags not at the start of the expression"
  | .localeFlag => "bad inline flags: cannot use 'L' flag with a str pattern"
  | .incompatibleFlags => "bad inline flags: flags 'a', 'u' and 'L' are incompatible"
  | .flagEnd => "missing -, : or )"
  | .unknownFlag => "unknown flag"
  | .missingFlag => "missing flag"
  | .missingColon => "missing :"
  | .globalFlagOn => "bad inline flags: cannot turn on global flag"
  | .globalFlagOff => "bad inline flags: cannot turn off global flag"
  | .typeFlagOff => "bad inline flags: cannot turn off flags 'a', 'u' and 'L'"
  | .flagOnAndOff => "bad inline flags: flag turned on and off"

/-- Why a pattern is refused. -/
inductive Error where
  /-- A fault at a position. -/
  | place (what : Fault) (position : Nat)
  /-- Text before the current position is asked for that can have different lengths. -/
  | lookbehindWidth
  /-- Text before the current position is asked for that is too long. -/
  | lookbehindFar
  /-- A repetition where templates allow none. -/
  | templateRepeat (operator : String)
  /-- A number of repetitions beyond the limit. -/
  | repetitionLimit
  /-- A code point beyond the limit of machine integers. -/
  | codePointLimit
  /-- A number with too many digits. -/
  | digitLimit (count : Nat)
  /-- One pattern for ASCII alone and for all scripts. -/
  | asciiAndUnicode
  deriving DecidableEq, Repr

/-- The line and column of a position, both from one. -/
def lineColumn (cs : List Char) (position : Nat) : Nat × Nat :=
  (cs.take position).foldl (fun (line, column) c => if c == '\n' then (line + 1, 1) else (line, column + 1)) (1, 1)

/-- The message of an error about a pattern's text. -/
def Error.message (cs : List Char) : Error → String
  | .place what position =>
    let place := what.message ++ " at position " ++ decimal position
    if cs.contains '\n' then
      let (line, column) := lineColumn cs position
      place ++ " (line " ++ decimal line ++ ", column " ++ decimal column ++ ")"
    else place
  | .lookbehindWidth => "look-behind requires fixed-width pattern"
  | .lookbehindFar => "looks too much behind"
  | .templateRepeat operator => "internal: unsupported template operator " ++ operator
  | .repetitionLimit => "the repetition number is too large"
  | .codePointLimit => "Python int too large to convert to C int"
  | .digitLimit count =>
    "Exceeds the limit (4300 digits) for integer string conversion: value has " ++ decimal count ++
      " digits; use sys.set_int_max_str_digits() to increase the limit"
  | .asciiAndUnicode => "ASCII and UNICODE flags are incompatible"

/-- What a caller can do about an error. -/
inductive ErrorKind where
  /-- The pattern is wrong. -/
  | invalid
  /-- A number in it is out of bounds. -/
  | overflow
  /-- A value in it cannot be used. -/
  | value
  deriving DecidableEq, Repr

/-- The kind of an error. -/
def Error.kind : Error → ErrorKind
  | .repetitionLimit | .codePointLimit => .overflow
  | .digitLimit _ | .asciiAndUnicode => .value
  | _ => .invalid

end Diagnosis.Pattern
