import Diagnosis.CommandLine.Printing
import Diagnosis.CommandLine.Recording

/-!
# The program

Runs a command line on the machine whose record comes from standard input.
-/

namespace Diagnosis.CommandLine

/-- The lines of a stream until it ends. -/
partial def readAll (stream : IO.FS.Stream) (soFar : String) : IO String := do
  let line ← stream.getLine
  if line.isEmpty then return soFar
  readAll stream (soFar ++ line)

/-- Prints what happened in a world and gives the code to end with. -/
def report (s : Setting) (t : Transcript) : IO UInt32 := do
  IO.print t.stdout
  IO.eprint t.complaints
  (t.lines s).forM fun line => IO.println line
  return UInt32.ofNat t.ending.code

end Diagnosis.CommandLine

/-- Runs the program with the words of its command line. -/
def main (args : List String) : IO UInt32 := do
  let record ← Diagnosis.CommandLine.readAll (← IO.getStdin) ""
  match Diagnosis.CommandLine.settingOf record with
  | .ok setting => Diagnosis.CommandLine.report setting (Diagnosis.CommandLine.run setting args)
  | .error message => do
    IO.eprintln message
    return 2
