import Diagnosis.Text.Digits
import Diagnosis.Text.Quoted

/-!
# Failures

What can go wrong while documents are checked. Failures of the engine itself
(a setting, the compiler, an encoding) are shown to the user as diagnostic
errors; a failure outside of its control is passed on as it is.
-/

namespace Diagnosis

open Diagnosis.Text (decimal decimalInt quotedText)


/-- What a setting has to be. -/
inductive Expected where
  | string
  | integer
  | strings
  deriving DecidableEq, Repr

/-- The words for what a setting has to be. -/
def Expected.message : Expected → String
  | .string => "a string"
  | .integer => "an integer"
  | .strings => "a list of strings"

/-- What is wrong with a setting. -/
inductive ConfigurationFault where
  | missing (path : String)
  /-- The value is given as messages show it. -/
  | wrongType (path : String) (expected : Expected) (shown : String)
  | delimiter (pattern reason : String)
  | record (pattern reason : String)
  | index (name : String) (position : Int) (groups : Nat)
  /-- Relative include paths without a workspace root. -/
  | noWorkspace
  | unreadable (path reason : String)
  deriving DecidableEq, Repr

/-- The words for what is wrong with a setting. -/
def ConfigurationFault.message : ConfigurationFault → String
  | .missing path => "missing setting 'cccdiag." ++ path ++ "'"
  | .wrongType path expected shown =>
    "'cccdiag." ++ path ++ "' must be " ++ expected.message ++ ", got " ++ shown
  | .delimiter pattern reason => "invalid diagDelimiter " ++ quotedText pattern ++ ": " ++ reason
  | .record pattern reason => "invalid diagInfoPattern " ++ quotedText pattern ++ ": " ++ reason
  | .index name position groups =>
    "parse.index." ++ name ++ "=" ++ decimalInt position ++ " is out of range; diagInfoPattern has " ++
      decimal groups ++ " capture group(s)"
  | .noWorkspace => "includePath.relative is set but no workspace root is open"
  | .unreadable path reason => "cannot read " ++ path ++ ": " ++ reason

/-- Why a compiler gave no result. -/
inductive InvocationFault where
  | notFound (command : String)
  | notStarted (command reason : String)
  | silent (command : String) (status : Int)
  deriving DecidableEq, Repr

/-- The words for why a compiler gave no result. -/
def InvocationFault.message : InvocationFault → String
  | .notFound command => "compiler '" ++ command ++ "' not found"
  | .notStarted command reason => "failed to start '" ++ command ++ "': " ++ reason
  | .silent command status =>
    "'" ++ command ++ "' exited with status " ++ decimalInt status ++ " and no diagnostics"

/-- Why bytes are not text. -/
inductive DecodingFault where
  | unknown (encoding : String)
  | notText (encoding : String)
  | invalid (what encoding reason : String)
  deriving DecidableEq, Repr

/-- The words for why bytes are not text. -/
def DecodingFault.message : DecodingFault → String
  | .unknown encoding => "unknown encoding '" ++ encoding ++ "'"
  | .notText encoding => "'" ++ encoding ++ "' is not a text encoding"
  | .invalid what encoding reason => what ++ " is not valid " ++ encoding ++ ": " ++ reason

/-- A failure of the engine itself. -/
inductive EngineError where
  | configuration (fault : ConfigurationFault)
  | invocation (fault : InvocationFault)
  | decoding (fault : DecodingFault)
  deriving DecidableEq, Repr

/-- The words for a failure of the engine. -/
def EngineError.message : EngineError → String
  | .configuration fault => fault.message
  | .invocation fault => fault.message
  | .decoding fault => fault.message

/-- What users see of a failure of the engine, given its words. -/
def notificationOf (message : String) : String := "Diagnostic Error: " ++ message

/-- What users see of a failure of the engine. -/
def EngineError.notification (e : EngineError) : String := notificationOf e.message

/-- What the system refuses to do with a file. -/
inductive SystemFault where
  | notFound
  | isDirectory
  | notDirectory
  | fileExists
  | tooManyLinks
  deriving DecidableEq, Repr

/-- The number and words for a fault. -/
def SystemFault.message : SystemFault → String
  | .notFound => "[Errno 2] No such file or directory"
  | .isDirectory => "[Errno 21] Is a directory"
  | .notDirectory => "[Errno 20] Not a directory"
  | .fileExists => "[Errno 17] File exists"
  | .tooManyLinks => "[Errno 40] Too many levels of symbolic links"

/-- A refusal of the system. -/
inductive SystemError where
  /-- About a file. -/
  | file (fault : SystemFault) (path : String)
  /-- About a file to be watched. -/
  | unwatchable (path : String)
  /-- About a program to be started, in the system's words. -/
  | start (notFound permission : Bool) (message : String)
  deriving DecidableEq, Repr

/-- The words for a refusal. -/
def SystemError.message : SystemError → String
  | .file fault path => fault.message ++ ": " ++ quotedText path
  | .unwatchable path => "Cannot watch non-existent file: " ++ path
  | .start _ _ message => message

/-- Anything that can go wrong. -/
inductive Failure where
  | engine (e : EngineError)
  | system (e : SystemError)
  /-- A value that cannot be used. -/
  | value (message : String)
  /-- A number out of bounds. -/
  | overflow (message : String)
  /-- Bytes that an encoding refuses as a whole. -/
  | encoding (message : String)
  /-- A state of the world that cannot be used. -/
  | runtime (message : String)
  /-- Text whose tags a terminal cannot make sense of. -/
  | markup (message : String)
  /-- A validation that was called off. -/
  | cancelled
  deriving DecidableEq, Repr

/-- The words for anything that can go wrong. -/
def Failure.message : Failure → String
  | .engine e => e.message
  | .system e => e.message
  | .value message | .overflow message | .encoding message | .runtime message | .markup message => message
  | .cancelled => ""

end Diagnosis
