import Diagnosis.Diagnostic

/-!
# Notices

What the engine tells whatever displays its results.
-/

namespace Diagnosis

/-- Something to be shown. -/
inductive Notice where
  /-- A document's diagnostics from now on. -/
  | publish (uri : String) (ds : List Diagnostic)
  /-- A failure that the user has to know. -/
  | error (message : String)
  /-- A message that is no diagnostic of a compiler. -/
  | log (message : String)
  deriving DecidableEq, Repr, Inhabited

end Diagnosis
