import Diagnosis.Json.Writer
import Diagnosis.Range
import Diagnosis.Severity
import Diagnosis.Text.Blank

/-!
# Diagnostics and issues

A diagnostic is one message about one line of a document; an issue is a block
of output that could not become one. Both are shown by their heads.
-/

namespace Diagnosis

open Diagnosis.Json (Value)

/-- One message about a line of a document. -/
structure Diagnostic where
  range : Range
  severity : Severity
  /-- The whole block that reported it. -/
  message : String
  /-- The compile command. -/
  source : String
  /-- The column that was reported; the range covers the whole line all the same. -/
  column : Int := 0
  file : String := ""
  deriving DecidableEq, Repr, Inhabited

/-- The head of a text. -/
def headOf (s : String) : String := String.ofList (Text.head s.toList)

namespace Diagnostic

/-- The line from one. -/
def line (d : Diagnostic) : Int := d.range.start.line + 1

/-- The places and the column, as they are counted. -/
def numbers (d : Diagnostic) : List Int :=
  [d.range.start.line, d.range.start.character, d.range.stop.line, d.range.stop.character, d.column]

/-- The first line of the message. -/
def summary (d : Diagnostic) : String := headOf d.message

end Diagnostic

/-- A position as a JSON value. -/
def Position.toJson (p : Position) : Value := .object [("line", .int p.line), ("character", .int p.character)]

/-- A range as a JSON value. -/
def Range.toJson (r : Range) : Value := .object [("start", r.start.toJson), ("end", r.stop.toJson)]

/-- A diagnostic as a JSON value. -/
def Diagnostic.toJson (d : Diagnostic) : Value :=
  .object [
    ("range", d.range.toJson),
    ("severity", .int d.severity.number),
    ("message", .text d.message),
    ("source", .text d.source),
    ("data", .object [("column", .int d.column), ("fileName", .text d.file)])]

/-- Why a block could not become a diagnostic. -/
inductive IssueReason where
  /-- The record pattern does not match, or the line it gives is no number. -/
  | noRecord
  /-- The document does not have the line. -/
  | line (e : LineOutOfRange)
  deriving DecidableEq, Repr

/-- The words for a reason. -/
def IssueReason.message : IssueReason → String
  | .noRecord => "block does not match diagInfoPattern"
  | .line e => e.message

/-- A block that could not become a diagnostic. -/
structure Issue where
  block : String
  reason : IssueReason
  deriving DecidableEq, Repr

/-- A reason with the head of the block it is about. -/
def describeIssue (reason block : String) : String :=
  let head := headOf block
  reason ++ ": " ++ (if head.isEmpty then "<blank block>" else head)

/-- An issue in one line. -/
def Issue.describe (i : Issue) : String := describeIssue i.reason.message i.block

/-- How many diagnostics have a severity. -/
def countOf (ds : List Diagnostic) (s : Severity) : Nat := ds.countP (·.severity == s)

/-- Whether some diagnostic is an error. -/
def hasError (ds : List Diagnostic) : Bool := ds.any (·.severity == .error)

end Diagnosis
