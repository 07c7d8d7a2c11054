import Diagnosis.Compiler.Basic
import Diagnosis.Log
import Diagnosis.Notice

/-!
# Events

What can be seen of the engine from outside: its log, the programs it starts
and kills, and what it tells whatever displays its results.
-/

namespace Diagnosis

/-- Something that can be seen. -/
inductive Event where
  | record (r : LogRecord)
  | spawn (i : Invocation)
  /-- The compiler of a source file is killed. -/
  | kill (file : String)
  | notice (n : Notice)
  deriving DecidableEq, Repr, Inhabited

/-- A line of the log. -/
def Event.log (level : LogLevel) (source : LogSource) (message : String) : Event :=
  .record ⟨level, source, message⟩

end Diagnosis
