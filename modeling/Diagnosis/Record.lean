import Diagnosis.Block
import Diagnosis.Failure
import Diagnosis.Settings.Basic

/-!
# Records

The rules that a snapshot of settings gives for taking output apart, and the
fields that the record pattern finds in a block.
-/

namespace Diagnosis

open Diagnosis.Text (readInt?)

/-- Patterns and indices that have been checked against each other. -/
structure Rules where
  delimiter : Pattern
  record : Pattern
  indices : Indices
  deriving Repr, Inhabited

/-- The failure for an error in a pattern, given the fault it means for the settings. -/
def patternFailure (fault : String → String → ConfigurationFault) (text : List Char) (pattern : String)
    (e : Pattern.Error) : Failure :=
  let message := e.message text
  match e.kind with
  | .invalid => .engine (.configuration (fault pattern message))
  | .overflow => .overflow message
  | .value => .value message

/-- The first index that the record pattern has no group for. -/
def Indices.beyond? (i : Indices) (groups : Nat) : Option (String × Int) :=
  i.named.find? fun (_, position) => position < 1 || (groups : Int) < position

/-- The rules of some settings. -/
def Rules.of (s : Settings) : Except Failure Rules := do
  let delimiter ← (delimiterPattern s.delimiter).mapError
    (patternFailure .delimiter (lookaheadOf s.delimiter.toList) s.delimiter)
  let record ← (Pattern.ofChars s.record.toList).mapError (patternFailure .record s.record.toList s.record)
  match s.indices.beyond? record.groups with
  | some (name, position) => .error (.engine (.configuration (.index name position record.groups)))
  | none => .ok ⟨delimiter, record, s.indices⟩

/-- What the record pattern found in a block. -/
structure Record where
  file : String
  line : Int
  column : Int
  severityText : String
  block : String
  deriving DecidableEq, Repr

/-- The fields of a block. There are none if the record pattern does not match, if the group of
the file or the line did not take part, or if the line is no number. A column that is missing or
no number counts as zero. -/
def Rules.extract (r : Rules) (block : String) : Option Record := do
  let text := block.toList.toArray
  let found ← r.record.search text
  let group (index : Int) : Option String := found.group? text index.toNat
  let file ← group r.indices.file
  let line ← readInt? (← group r.indices.line).toList
  let column := ((group r.indices.column).bind fun s => readInt? s.toList).getD 0
  return ⟨file, line, column, (group r.indices.severity).getD "", block⟩

end Diagnosis
