import Diagnosis.Display.Table
import Diagnosis.Failure
import Diagnosis.Json.Writer
import Diagnosis.Keyed
import Diagnosis.Notice
import Diagnosis.Text.Numeral
import Diagnosis.Uri.File

/-!
# The console

Prints every notice as it comes: tables and styled lines, or one JSON document
for each set of diagnostics, with which messages of the log are not printed. The
name of a file stands between the tags of a line as it is, so that a terminal may
take parts of it for tags as well, and refuse the line.
-/

namespace Diagnosis

open Diagnosis.Display
open Diagnosis.Json (Value)
open Diagnosis.Text (isShort)

/-- Something printed. -/
inductive Printed where
  | markup (text : String)
  | styled (text : Styled)
  | table (t : Table)
  | json (text : String)
  deriving DecidableEq, Repr, Inhabited

/-- A terminal, by what it makes of text with tags in it: why it refuses the text, if it does. -/
structure Terminal where
  refusal? : String → Option String := fun _ => none
  deriving Inhabited

/-- Something with a text that has tags in it, unless a terminal refuses the text. -/
def Terminal.accept (t : Terminal) (text : String) (p : Printed) : Except Failure Printed :=
  match t.refusal? text with
  | some message => .error (.markup message)
  | none => .ok p

namespace Console

/-- How a console prints. -/
inductive Form where
  | json
  | text (terminal : Terminal)
  deriving Inhabited

end Console

/-- A console and what it has been told. -/
structure Console where
  form : Console.Form
  published : Keyed (List Diagnostic) := []
  errors : List String := []
  deriving Inhabited

namespace Console

/-- A set of diagnostics as a JSON value. -/
def documentOf (uri : String) (ds : List Diagnostic) : Value :=
  .object [("uri", .text uri), ("diagnostics", .list (ds.map Diagnostic.toJson))]

/-- What is said of a whole number with too many digits. -/
def tooLong : String :=
  "Exceeds the limit (4300 digits) for integer string conversion; use sys.set_int_max_str_digits() to increase the limit"

/-- A set of diagnostics as JSON text, unless one of its numbers is too long. -/
def jsonOf (uri : String) (ds : List Diagnostic) : Except String String :=
  if ds.all (·.numbers.all isShort) then .ok (Json.render (documentOf uri ds)) else .error tooLong

/-- The line for a file without diagnostics. -/
def cleanLine (name : String) : String := "[" ++ bold teal ++ "]" ++ name ++ "[/]: no problems"

/-- What is printed for a set of diagnostics, or why it cannot be printed: a number in it is too
long, its address has no path, or the terminal refuses the line or the title with the file's name. -/
def printedFor (form : Form) (uri : String) (ds : List Diagnostic) : Except Failure Printed :=
  match form with
  | .json => ((jsonOf uri ds).map .json).mapError .value
  | .text terminal =>
    ((Uri.toPath uri).mapError .value).bind fun path =>
      if ds.isEmpty then terminal.accept (cleanLine (fileName path)) (.markup (cleanLine (fileName path)))
      else if ds.all fun d => isShort d.line && isShort d.column then
        terminal.accept (fileName path) (.table (.ofDiagnostics path ds))
      else .error (.value tooLong)

/-- Why a set of diagnostics cannot be shown under an address, if it cannot. -/
def refusal? (form : Form) (uri : String) (ds : List Diagnostic) : Option Failure :=
  match printedFor form uri ds with
  | .ok _ => none
  | .error f => some f

/-- What is printed for a notice; nothing if it cannot be shown. -/
def printed (form : Form) : Notice → List Printed
  | .publish uri ds => (printedFor form uri ds).toOption.toList
  | .error message => [.styled (.of message (bold red))]
  | .log message =>
    match form with
    | .json => []
    | .text _ => [.styled (.of message mutedBlue)]

/-- The console after a notice. -/
def receive (c : Console) : Notice → Console
  | .publish uri ds => { c with published := c.published.put uri ds }
  | .error message => { c with errors := c.errors ++ [message] }
  | .log _ => c

end Console

end Diagnosis
