import Diagnosis.Diagnostic
import Diagnosis.Record

/-!
# Reports

What a compiler's output says about one document: diagnostics for the blocks
that name it and one of its lines, issues for the blocks that cannot be placed,
and the names of the other files that blocks speak of.
-/

namespace Diagnosis

/-- What some output says about a document. -/
structure Report where
  diagnostics : List Diagnostic := []
  issues : List Issue := []
  /-- The files of the blocks about other files. -/
  others : List String := []
  deriving DecidableEq, Repr, Inhabited

/-- How many blocks are about other files. -/
def Report.filtered (r : Report) : Nat := r.others.length

/-- Where a block of output belongs. -/
inductive Placed where
  | diagnostic (d : Diagnostic)
  | issue (i : Issue)
  | other (file : String)
  deriving DecidableEq, Repr

/-- Where a block belongs, for a document with a name and lines. -/
def place (rules : Rules) (settings : Settings) (name : String) (table : LineTable) (block : String) :
    Placed :=
  match rules.extract block with
  | none => .issue ⟨block, .noRecord⟩
  | some f =>
    if f.file ≠ name then .other f.file
    else match table.range f.line with
      | .error e => .issue ⟨block, .line e⟩
      | .ok range =>
        .diagnostic ⟨range, classify settings.identifiers f.severityText, block, settings.command, f.column, f.file⟩

/-- A report with one more block at its front. -/
def Report.cons : Placed → Report → Report
  | .diagnostic d, r => { r with diagnostics := d :: r.diagnostics }
  | .issue i, r => { r with issues := i :: r.issues }
  | .other file, r => { r with others := file :: r.others }

/-- The report of blocks in order. -/
def Report.ofPlaced (ps : List Placed) : Report := ps.foldr Report.cons {}

/-- What some output says about a document with a name and a text. -/
def report (settings : Settings) (output name text : String) : Except Failure Report := do
  let rules ← Rules.of settings
  let table := LineTable.ofText text
  return .ofPlaced ((blocks rules.delimiter output).map (place rules settings name table))

end Diagnosis
