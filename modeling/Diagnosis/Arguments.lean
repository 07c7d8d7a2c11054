import Diagnosis.Failure
import Diagnosis.Path
import Diagnosis.Settings.Basic

/-!
# The compiler's arguments

Options come first, then a flag for each include path, then the name of the
source file, in whose directory the compiler runs.
-/

namespace Diagnosis

/-- Whether a workspace root is given; an empty one is none. -/
def workspaceOf (workspace : Option String) : Option String := workspace.filter (! ·.isEmpty)

/-- The flags for the include paths: absolute ones as they are, relative ones from the workspace
root. -/
def includeFlags (s : Settings) (workspace : Option String) : Except ConfigurationFault (List String) :=
  let fixed := s.absoluteIncludes.map (s.includeFlag ++ ·)
  if s.relativeIncludes.isEmpty then .ok fixed
  else match workspaceOf workspace with
    | none => .error .noWorkspace
    | some root => .ok (fixed ++ s.relativeIncludes.map fun p => s.includeFlag ++ Path.absolute root p)

/-- All arguments for a source file. -/
def arguments (s : Settings) (source : String) (workspace : Option String) :
    Except ConfigurationFault (List String) := do
  let flags ← includeFlags s workspace
  return s.options ++ flags ++ [fileName source]

end Diagnosis
