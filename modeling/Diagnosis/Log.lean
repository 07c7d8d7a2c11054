/-!
# Log records

What the parts of the program write into its log, and how bad it is.
-/

namespace Diagnosis

/-- How much a log record matters. -/
inductive LogLevel where
  | debug
  | info
  | warning
  | error
  deriving DecidableEq, Repr, Inhabited

/-- The word for a level. -/
def LogLevel.name : LogLevel → String
  | .debug => "DEBUG"
  | .info => "INFO"
  | .warning => "WARNING"
  | .error => "ERROR"

/-- The number of a level; a log keeps the records at its own level and above. -/
def LogLevel.number : LogLevel → Nat
  | .debug => 10
  | .info => 20
  | .warning => 30
  | .error => 40

/-- A part of the program that writes into the log. -/
inductive LogSource where
  | settings
  | compiler
  | parsing
  | engine
  | app
  deriving DecidableEq, Repr, Inhabited

/-- The name of a part in the log. -/
def LogSource.name : LogSource → String
  | .settings => "cccdiag.utils.config"
  | .compiler => "cccdiag.compiler.driver"
  | .parsing => "cccdiag.parsing.diagnostics"
  | .engine => "cccdiag.engine"
  | .app => "cccdiag.ui.app"

/-- One line of the log. -/
structure LogRecord where
  level : LogLevel
  source : LogSource
  message : String
  deriving DecidableEq, Repr, Inhabited

/-- The line of a record in a log file, but for its time. -/
def LogRecord.line (r : LogRecord) : String := r.level.name ++ " " ++ r.source.name ++ ": " ++ r.message

end Diagnosis
