import Diagnosis.Failure
import Diagnosis.Json.Writer
import Diagnosis.Settings.Basic
import Diagnosis.Settings.Layer

/-!
# Checking settings

The built-in layer, and the snapshot that a layer gives when it goes over the
built-in one. The first setting, in a fixed order, that is missing or of the
wrong type is the fault.
-/

namespace Diagnosis.Settings

open Diagnosis.Json

/-- The layer under all others. -/
def builtIn : Fields := [
  ("maxNumberOfProblems", .int 100),
  ("compileCommand", .text "gcc"),
  ("compileOptions", .list [.text "-fsyntax-only", .text "-Wall", .text "-fdiagnostics-parseable-fixits"]),
  ("includeOptionPrefix", .text "-I"),
  ("includePath", .object [("absolute", .list []), ("relative", .list [])]),
  ("diagDelimiter", .text "^.+:[0-9]+:[0-9]+:"),
  ("parse", .object [
    ("encoding", .text "utf-8"),
    ("diagInfoPattern", .text "^(.+):([0-9]+):([0-9]+):\\s*(.+):.*"),
    ("index", .object [("file_name", .int 1), ("line_pos", .int 2), ("char_pos", .int 3), ("severity", .int 4)]),
    ("severityIdentifier", .object [("error", .text "error"), ("warning", .text "warning"),
      ("information", .text "info"), ("hint", .text "hint")])])]

/-- The value of a dotted key that has to be there. -/
def require (fields : Fields) (key : String) : Except ConfigurationFault Value :=
  match lookup? fields key with
  | some v => .ok v
  | none => .error (.missing key)

/-- A setting that has to be a string. -/
def requireText (fields : Fields) (key : String) : Except ConfigurationFault String := do
  match ← require fields key with
  | .text s => .ok s
  | v => .error (.wrongType key .string (inspect v))

/-- A setting that has to be a whole number. -/
def requireInt (fields : Fields) (key : String) : Except ConfigurationFault Int := do
  match ← require fields key with
  | .int n => .ok n
  | v => .error (.wrongType key .integer (inspect v))

/-- The strings of a list of nothing but strings. -/
def texts? (v : Value) : Option (List String) := v.list?.bind fun items => items.mapM Value.text?

/-- A setting that has to be a list of strings. -/
def requireTexts (fields : Fields) (key : String) : Except ConfigurationFault (List String) := do
  let v ← require fields key
  match texts? v with
  | some ss => .ok ss
  | none => .error (.wrongType key .strings (inspect v))

/-- The snapshot that complete fields give. -/
def ofComplete (fields : Fields) : Except ConfigurationFault Settings := do
  let command ← requireText fields "compileCommand"
  let options ← requireTexts fields "compileOptions"
  let includeFlag ← requireText fields "includeOptionPrefix"
  let absoluteIncludes ← requireTexts fields "includePath.absolute"
  let relativeIncludes ← requireTexts fields "includePath.relative"
  let delimiter ← requireText fields "diagDelimiter"
  let encoding ← requireText fields "parse.encoding"
  let record ← requireText fields "parse.diagInfoPattern"
  let file ← requireInt fields "parse.index.file_name"
  let line ← requireInt fields "parse.index.line_pos"
  let column ← requireInt fields "parse.index.char_pos"
  let severity ← requireInt fields "parse.index.severity"
  let error ← requireText fields "parse.severityIdentifier.error"
  let warning ← requireText fields "parse.severityIdentifier.warning"
  let information ← requireText fields "parse.severityIdentifier.information"
  let hint ← requireText fields "parse.severityIdentifier.hint"
  let limit ← requireInt fields "maxNumberOfProblems"
  return {
    command, options, includeFlag, absoluteIncludes, relativeIncludes, delimiter, encoding, record, limit
    indices := { file, line, column, severity }
    identifiers := { error, warning, information, hint } }

/-- The snapshot that a layer with nested or dotted keys gives over the built-in one. -/
def ofFields (fields : Fields) : Except ConfigurationFault Settings := ofComplete (overlay builtIn (expand fields))

/-- The name of the section that a whole file may be nested under. -/
def sectionName : String := "cccdiag"

/-- The layer of a configuration file's value: an object, or what its only section holds. -/
def layerOf? (v : Value) : Option Fields :=
  v.fields?.map fun fields =>
    match expand fields with
    | [(key, .object inner)] => if key = sectionName then inner else [(key, .object inner)]
    | whole => whole

end Diagnosis.Settings
