import Diagnosis.App
import Diagnosis.CommandLine.Run

/-!
# Printing what happened

The lines that are handed to a terminal, with their tags as they stand, and what
the program complains of.
-/

namespace Diagnosis

open Diagnosis.Display (Cell Table)

/-- The text of a cell. -/
def Display.Cell.text : Cell → String
  | .plain text => text
  | .styled s => s.text

/-- The lines of some rows under the names of their columns. -/
def gridLines (columns : List String) (rows : List (List Cell)) : List String :=
  (columns :: rows.map fun row => row.map Cell.text).map ("\t".intercalate ·)

/-- The lines of a table: its title, the names of its columns, and its rows. -/
def Display.Table.lines (t : Table) : List String := t.title :: gridLines t.columns t.rows

/-- The lines of something printed. -/
def Printed.lines : Printed → List String
  | .markup text => [text]
  | .styled s => [s.text]
  | .table t => t.lines
  | .json text => [text]

/-- What is printed for an event on a console. -/
def Event.printed (form : Console.Form) : Event → List Printed
  | .notice n => Console.printed form n
  | _ => []

namespace CommandLine

/-- What the program prints of the results. -/
def Transcript.printed (t : Transcript) : List Printed := t.trace.flatMap (Event.printed t.form)

/-- What the application shows of files when it has dealt with all that comes up at first: the table
of problems and the bar under it. -/
def appLines (s : Setting) (files : List String) (workspace : Option String) : Except Failure (List String) := do
  let engine ← Engine.create s.machine .display (folderOf s.home) workspace
  let (mounted, failure) := (← App.create engine files true).mount
  failure.forM throw
  let (a, failure) := mounted.deliver
  failure.forM throw
  return gridLines a.problems.columns a.problems.rows ++ [a.bar.shown]

/-- What the terminal shows of the results. -/
def Transcript.lines (s : Setting) (t : Transcript) : List String :=
  t.printed.flatMap Printed.lines ++
    match t.opened with
    | none => []
    | some (files, workspace) =>
      match appLines s files workspace with
      | .ok lines => lines
      | .error f => ["Fatal Error: " ++ f.message]

/-- What the program complains of. -/
def Transcript.complaints (t : Transcript) : String :=
  match t.ending with
  | .failed f => t.stderr ++ f.message ++ "\n"
  | _ => t.stderr

end CommandLine

end Diagnosis
