import Diagnosis.Diagnostic
import Diagnosis.Display.Styled
import Diagnosis.Path

/-!
# Tables of diagnostics

One row a diagnostic: its line and column, its severity, and its summary.
-/

namespace Diagnosis.Display

open Diagnosis.Text (decimalInt)

/-- A cell of a table. -/
inductive Cell where
  | plain (text : String)
  | styled (text : Styled)
  deriving DecidableEq, Repr, Inhabited

/-- A table under a title. -/
structure Table where
  title : String
  columns : List String
  rows : List (List Cell)
  deriving DecidableEq, Repr, Inhabited

/-- The cells of a diagnostic. -/
def cellsOf (d : Diagnostic) : List Cell :=
  [.plain (decimalInt d.line), .plain (decimalInt d.column), .styled (severityText d.severity),
    .styled (.of d.summary "")]

/-- The names of those cells. -/
def columnNames : List String := ["Line", "Col", "Severity", "Message"]

/-- The table of the diagnostics of one file. -/
def Table.ofDiagnostics (path : String) (ds : List Diagnostic) : Table :=
  ⟨fileName path, columnNames, ds.map cellsOf⟩

end Diagnosis.Display
