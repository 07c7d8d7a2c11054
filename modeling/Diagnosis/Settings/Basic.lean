import Diagnosis.Severity

/-!
# Settings

What a user can choose about one pass: the compiler and its options, the
patterns that take its output apart, and how much is shown. A snapshot holds
for a whole pass.
-/

namespace Diagnosis

/-- The numbers, from one, of the groups of the record pattern that hold each field. -/
structure Indices where
  file : Int := 1
  line : Int := 2
  column : Int := 3
  severity : Int := 4
  deriving DecidableEq, Repr, Inhabited

/-- The indices with the names they have in configuration files. -/
def Indices.named (i : Indices) : List (String × Int) :=
  [("file_name", i.file), ("line_pos", i.line), ("char_pos", i.column), ("severity", i.severity)]

/-- A snapshot of all settings. -/
structure Settings where
  command : String := "gcc"
  options : List String := ["-fsyntax-only", "-Wall", "-fdiagnostics-parseable-fixits"]
  includeFlag : String := "-I"
  absoluteIncludes : List String := []
  relativeIncludes : List String := []
  delimiter : String := "^.+:[0-9]+:[0-9]+:"
  encoding : String := "utf-8"
  record : String := "^(.+):([0-9]+):([0-9]+):\\s*(.+):.*"
  indices : Indices := {}
  identifiers : Identifiers := {}
  /-- The most diagnostics shown for a document; negative for no limit. -/
  limit : Int := 100
  deriving DecidableEq, Repr, Inhabited

end Diagnosis
