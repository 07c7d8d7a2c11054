import Diagnosis.Display.Table
import Diagnosis.Keyed
import Diagnosis.Text.Sorted
import Diagnosis.Uri.File

/-!
# The problems of all documents

One table with the diagnostics of every document that has any, sorted by
address, and a bar that counts the worst of them.
-/

namespace Diagnosis.Display

open Diagnosis.Text (decimal decimalInt sorted)

/-- The table of all problems. -/
structure Problems where
  columns : List String := []
  /-- The diagnostics of the documents that have any. -/
  sets : Keyed (List Diagnostic) := []
  rows : List (List Cell) := []
  deriving Repr, Inhabited

namespace Problems

/-- The names of a row's cells. -/
def headers : List String := "File" :: columnNames

/-- With its columns named. -/
def mount (p : Problems) : Problems := { p with columns := p.columns ++ headers }

/-- The diagnostics under an address. -/
def setOf (p : Problems) (uri : String) : List Diagnostic := (p.sets.get? uri).getD []

/-- All diagnostics in the order of the rows. -/
def all (p : Problems) : List Diagnostic := (sorted p.sets.keys).flatMap p.setOf

/-- The row of a diagnostic of a file. -/
def rowOf (file : String) (d : Diagnostic) : List Cell := .plain file :: cellsOf d

/-- The rows of some documents; an address without a path ends them. -/
def rowsOf (p : Problems) : List String → List (List Cell) × Option String
  | [] => ([], none)
  | uri :: rest =>
    match Uri.toPath uri with
    | .error e => ([], some e)
    | .ok path =>
      let (rows, e) := p.rowsOf rest
      ((p.setOf uri).map (rowOf (fileName path)) ++ rows, e)

/-- With another set of diagnostics for a document, and what is wrong with an address. -/
def set (p : Problems) (uri : String) (ds : List Diagnostic) : Problems × Option String :=
  let p := { p with sets := if ds.isEmpty then p.sets.erase uri else p.sets.put uri ds }
  let (rows, e) := p.rowsOf (sorted p.sets.keys)
  ({ p with rows }, e)

end Problems

/-- The bar under the table. -/
structure StatusBar where
  documents : Int := 0
  status : String := "idle"
  errors : Nat := 0
  warnings : Nat := 0
  /-- What it shows; nothing before the first change. -/
  shown : String := ""
  deriving DecidableEq, Repr, Inhabited

namespace StatusBar

/-- The parts of what a bar shows. -/
def parts (b : StatusBar) : List String :=
  ["📄 " ++ decimalInt b.documents ++ " file(s)", "● " ++ b.status] ++
    (if b.errors = 0 then [] else ["❌ " ++ decimal b.errors ++ " error(s)"]) ++
    (if b.warnings = 0 then [] else ["⚠ " ++ decimal b.warnings ++ " warning(s)"])

/-- A bar that shows its parts. -/
def refresh (b : StatusBar) : StatusBar := { b with shown := "  │  ".intercalate b.parts }

/-- A bar with what is new. -/
def update (b : StatusBar) (documents : Option Int) (status : Option String)
    (diagnostics : Option (List Diagnostic)) : StatusBar :=
  refresh { b with
    documents := documents.getD b.documents
    status := status.getD b.status
    errors := (diagnostics.map (countOf · .error)).getD b.errors
    warnings := (diagnostics.map (countOf · .warning)).getD b.warnings }

end StatusBar

end Diagnosis.Display
