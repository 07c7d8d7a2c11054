import Diagnosis.Arguments
import Diagnosis.Keyed

/-!
# Compilers

How a compiler is called, and what it answers. A toolchain tells which commands
there are and how each call is answered; some answers have their output come later.
-/

namespace Diagnosis

/-- A call of a compiler. -/
structure Invocation where
  command : String
  arguments : List String
  /-- The directory it runs in, which is that of the source file. -/
  directory : String
  deriving DecidableEq, Repr, Inhabited

/-- The source file that a call is about: its last argument. -/
def Invocation.file (i : Invocation) : String := i.arguments.getLast?.getD ""

/-- The call for a source file. -/
def Invocation.of (s : Settings) (source : String) (workspace : Option String) :
    Except ConfigurationFault Invocation := do
  return ⟨s.command, ← Diagnosis.arguments s source workspace, (Path.ofString source).parent.text⟩

/-- Why a program does not start. -/
structure StartFault where
  /-- Whether the system refused it, or something else went wrong. -/
  bySystem : Bool
  message : String
  deriving DecidableEq, Repr, Inhabited

/-- What a compiler that has ended leaves behind. -/
structure Output where
  stdout : List Nat
  stderr : List Nat
  code : Int
  deriving DecidableEq, Repr, Inhabited

/-- Whether the compiler says that all is well. -/
def Output.succeeded (o : Output) : Bool := o.code == 0

/-- How a compiler answers a call. -/
structure Reply where
  output : Output := ⟨[], [], 0⟩
  /-- Whether the output has to be waited for. -/
  held : Bool := false
  /-- Whether the program has ended although its output is held. -/
  exited : Bool := false
  fault : Option StartFault := none
  deriving DecidableEq, Repr, Inhabited

/-- The compilers that there are. -/
structure Toolchain where
  /-- The commands that are not there. -/
  missing : List String := []
  /-- The answers to calls. -/
  answer : Invocation → Reply := fun _ => {}
  deriving Inhabited

/-- The answers to calls by the names of the source files that the calls are about. -/
def Toolchain.byName (replies : Keyed Reply) (i : Invocation) : Reply := (replies.get? i.file).getD {}

end Diagnosis
