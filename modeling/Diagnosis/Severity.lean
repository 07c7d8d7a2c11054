/-!
# Severities

How bad a diagnostic is, and how the words a compiler uses for it are told
apart: the first of four identifiers that occurs in the text decides, and text
without any of them speaks of an error.
-/

namespace Diagnosis

/-- How bad a diagnostic is. -/
inductive Severity where
  | error
  | warning
  | information
  | hint
  deriving DecidableEq, Repr, Inhabited

namespace Severity

/-- All severities, the worst first. -/
def all : List Severity := [.error, .warning, .information, .hint]

/-- The number that editors know a severity by. -/
def number : Severity → Nat
  | .error => 1
  | .warning => 2
  | .information => 3
  | .hint => 4

/-- The severity of a number. -/
def ofNumber? (n : Int) : Option Severity := all.find? fun s => (s.number : Int) == n

/-- The word for a severity. -/
def label : Severity → String
  | .error => "error"
  | .warning => "warning"
  | .information => "information"
  | .hint => "hint"

end Severity

/-- The text that stands for each severity in a compiler's output. -/
structure Identifiers where
  error : String := "error"
  warning : String := "warning"
  information : String := "info"
  hint : String := "hint"
  deriving DecidableEq, Repr, Inhabited

/-- The text for a severity. -/
def Identifiers.of (ids : Identifiers) : Severity → String
  | .error => ids.error
  | .warning => ids.warning
  | .information => ids.information
  | .hint => ids.hint

/-- Whether a text has another one in it. -/
def occursIn (part : List Char) : List Char → Bool
  | [] => part.isEmpty
  | c :: rest => part.isPrefixOf (c :: rest) || occursIn part rest

/-- The severity that a text speaks of. -/
def classify (ids : Identifiers) (text : String) : Severity :=
  (Severity.all.find? fun s => occursIn (ids.of s).toList text.toList).getD .error

end Diagnosis
