import Diagnosis.Text.Quoted
import Diagnosis.Unicode.Digit

/-!
# The options of the command line

Words that begin with a dash are switches, unless they are a single dash, a
number, have a blank in them, or come after two dashes. The front of a long
switch is enough where it is the front of only one. All files have to stand
together; other words are not recognized.
-/

namespace Diagnosis.CommandLine

open Diagnosis.Text (quotedText)

/-- A switch. -/
inductive Switch where
  | help
  | workspace
  | once
  | json
  | logFile
  | verbose
  deriving DecidableEq, Repr, Inhabited

/-- The spellings of all switches in the order of their definition. -/
def spellings : List (String × Switch) := [
  ("-h", .help), ("--help", .help), ("--workspace", .workspace), ("--once", .once), ("--json", .json),
  ("--log-file", .logFile), ("--verbose", .verbose)]

/-- Whether a switch has a value. -/
def Switch.takesValue : Switch → Bool
  | .workspace | .logFile => true
  | _ => false

/-- A switch as messages name it. -/
def Switch.name (s : Switch) : String := "/".intercalate ((spellings.filter (·.2 = s)).map (·.1))

/-- A word of the command line. -/
inductive Word where
  | plain (s : String)
  /-- A switch as it was written, what it is if it is known, how it is spelled in full, and the
  value that is written together with it. -/
  | switch (written : String) (known : Option (Switch × String × Option String))
  deriving DecidableEq, Repr, Inhabited

/-- The text before and after the first equals sign. -/
def splitEquals (s : String) : Option (String × String) :=
  let front := s.toList.takeWhile (· != '=')
  if front.length < s.toList.length then
    some (String.ofList front, String.ofList (s.toList.drop (front.length + 1)))
  else none

/-- What is wrong in the letters after a short switch without a value; nothing if they ask for help
again or are not recognized. -/
def afterShort : List Char → Option String
  | '-' :: rest => some (String.ofList ('-' :: rest))
  | 'h' :: '=' :: rest => some (String.ofList rest)
  | 'h' :: rest => afterShort rest
  | _ => none

/-- The switches that the front of a spelling may mean, with their full spellings and values. -/
def meanings (s : String) : List (Switch × String × Option String) :=
  match s.toList with
  | '-' :: '-' :: _ =>
    let (front, value) := match splitEquals s with
      | some (front, value) => (front, some value)
      | none => (s, none)
    (spellings.filter fun (spelled, _) => front.toList.isPrefixOf spelled.toList).map fun (spelled, sw) => (sw, spelled, value)
  | '-' :: c :: rest =>
    spellings.filterMap fun (spelled, sw) =>
      if spelled = String.ofList ['-', c] then some (sw, spelled, afterShort rest)
      else if s.toList.isPrefixOf spelled.toList then some (sw, spelled, none)
      else none
  | _ => []

/-- Whether a text is a number: digits, or digits after a point that may follow others. -/
def isNumber (cs : List Char) : Bool :=
  let cs := match cs.getLast? with
    | some '\n' => cs.dropLast
    | _ => cs
  let isDigit (c : Char) : Bool := (Unicode.digitValue? c.toNat).isSome
  let rest := cs.dropWhile isDigit
  match rest with
  | [] => ! cs.isEmpty
  | '.' :: after => ! after.isEmpty && after.all isDigit
  | _ => false

/-- What a word is; fails if it may mean several switches. -/
def Word.of (s : String) : Except String Word :=
  match s.toList with
  | [] => .ok (.plain s)
  | ['-'] => .ok (.plain s)
  | '-' :: rest =>
    match spellings.lookup s with
    | some sw => .ok (.switch s (some (sw, s, none)))
    | none =>
      let exact := (splitEquals s).bind fun (front, value) => (spellings.lookup front).map fun sw => (sw, front, some value)
      match exact with
      | some known => .ok (.switch s (some known))
      | none =>
        match meanings s with
        | [known] => .ok (.switch s (some known))
        | [] => if isNumber rest || rest.contains ' ' then .ok (.plain s) else .ok (.switch s none)
        | several =>
          .error ("ambiguous option: " ++ s ++ " could match " ++ ", ".intercalate (several.map fun (_, spelled, _) => spelled))
  | _ => .ok (.plain s)

/-- What the command line says. -/
structure Options where
  files : List String := []
  workspace : Option String := none
  once : Bool := false
  json : Bool := false
  logFile : Option String := none
  verbose : Bool := false
  deriving DecidableEq, Repr, Inhabited

/-- Why the command line is not followed. -/
inductive Stop where
  /-- It asks for help. -/
  | help
  | wrong (message : String)
  deriving DecidableEq, Repr, Inhabited

/-- What has been read of a command line. -/
structure Reading where
  options : Options := {}
  /-- Whether a file may still come. -/
  accepting : Bool := true
  /-- The words that are not recognized. -/
  extras : List String := []
  deriving Repr, Inhabited

namespace Reading

/-- With a plain word. -/
def plain (r : Reading) (s : String) : Reading :=
  if r.accepting then { r with options := { r.options with files := r.options.files ++ [s] } }
  else { r with extras := r.extras ++ [s] }

/-- After a switch no more files may come if some have. -/
def close (r : Reading) : Reading := { r with accepting := r.accepting && r.options.files.isEmpty }

/-- With a switch that has no value. -/
def turnOn (r : Reading) (s : Switch) : Except Stop Reading :=
  match s with
  | .help => .error .help
  | .once => .ok { r with options := { r.options with once := true } }
  | .json => .ok { r with options := { r.options with json := true } }
  | .verbose => .ok { r with options := { r.options with verbose := true } }
  | .workspace | .logFile => .ok r

/-- With the value of a switch. -/
def setValue (r : Reading) (s : Switch) (value : String) : Reading :=
  match s with
  | .workspace => { r with options := { r.options with workspace := some value } }
  | .logFile => { r with options := { r.options with logFile := some value } }
  | _ => r

end Reading

/-- What is wrong with the use of a switch. -/
def wrongUse (s : Switch) (message : String) : Stop := .wrong ("argument " ++ s.name ++ ": " ++ message)

/-- A value that is written together with a switch that has none. -/
def ignored (s : Switch) (value : String) : Stop := wrongUse s ("ignored explicit argument " ++ quotedText value)

/-- Reads words up to two dashes. `last` says whether two dashes come after them. -/
def readWords : Reading → List Word → Except Stop Reading
  | r, [] => .ok r
  | r, .plain s :: rest => readWords (r.plain s) rest
  | r, .switch written none :: rest => readWords { r.close with extras := r.extras ++ [written] } rest
  | r, .switch _ (some (s, _, some value)) :: rest =>
    if s.takesValue then readWords (r.close.setValue s value) rest
    else .error (ignored s value)
  | r, .switch _ (some (s, _, none)) :: rest =>
    if s.takesValue then
      match rest with
      | .plain value :: rest => readWords (r.close.setValue s value) rest
      | _ => .error (wrongUse s "expected one argument")
    else do readWords (← r.close.turnOn s) rest

/-- The words before the first two dashes, and the rest with them. -/
def splitDashes (args : List String) : List String × List String :=
  (args.takeWhile (· ≠ "--"), args.dropWhile (· ≠ "--"))

/-- Reads a command line. The first two dashes among the files say nothing. -/
def Options.ofArguments (args : List String) : Except Stop Options := do
  let (front, back) := splitDashes args
  let words ← (front.mapM Word.of).mapError Stop.wrong
  let r ← readWords {} words
  let r := back.foldl Reading.plain r
  if r.extras.isEmpty then return { r.options with files := r.options.files.erase "--" }
  else throw (.wrong ("unrecognized arguments: " ++ " ".intercalate r.extras))

/-- How the program is called. -/
def usage : String :=
  "usage: cccdiag [-h] [--workspace WORKSPACE] [--once] [--json]\n" ++
  "               [--log-file LOG_FILE] [--verbose]\n" ++
  "               [files ...]\n"

/-- What the program says about itself. -/
def helpText : String :=
  usage ++ "\n" ++
  "cccdiag: compiler-driven C diagnostics\n\n" ++
  "positional arguments:\n" ++
  "  files                 C source files to validate\n\n" ++
  "options:\n" ++
  "  -h, --help            show this help message and exit\n" ++
  "  --workspace WORKSPACE\n" ++
  "                        Workspace root used for relative include paths and\n" ++
  "                        folder settings\n" ++
  "  --once                Validate once, print the results and exit\n" ++
  "  --json                With --once, print diagnostics as JSON\n" ++
  "  --log-file LOG_FILE   Engine log file\n" ++
  "  --verbose             Log debug output\n"

end Diagnosis.CommandLine
