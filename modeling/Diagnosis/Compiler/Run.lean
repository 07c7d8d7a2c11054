import Diagnosis.Encoding.Decode
import Diagnosis.Event

/-!
# Running a compiler

A run begins when the call is known and the program starts, and ends with the
program's output. A program that fails and has nothing to say gives no result:
that is a failed run and not a clean file.
-/

namespace Diagnosis.Compiler

open Diagnosis.Text (decimal decimalInt)

/-- A blank of ASCII. -/
def isBlankByte (b : Nat) : Bool := b == 32 || (9 ≤ b && b ≤ 13)

/-- The failure of starting a program. -/
def startFailure (command : String) (f : StartFault) : Failure :=
  if f.bySystem then .engine (.invocation (.notStarted command f.message)) else .runtime f.message

/-- Starts a program, and tells how it will answer. -/
def spawn (t : Toolchain) (i : Invocation) : List Event × Except Failure Reply :=
  if t.missing.contains i.command then ([], .error (.engine (.invocation (.notFound i.command)))) else
  let reply := t.answer i
  let events := [
    .log .info .compiler ("Running " ++ i.command ++ " " ++ " ".intercalate i.arguments ++ " in " ++ i.directory),
    .spawn i]
  match reply.fault with
  | some f => (events, .error (startFailure i.command f))
  | none => (events, .ok reply)

/-- Begins a run for a source file. -/
def begin (t : Toolchain) (s : Settings) (source : String) (workspace : Option String) :
    List Event × Except Failure Reply :=
  match Invocation.of s source workspace with
  | .error e => ([], .error (.engine (.configuration e)))
  | .ok i => spawn t i

/-- Ends a run with the output of its program. -/
def conclude (command : String) (o : Output) : Event × Except Failure Output :=
  (.log .debug .compiler (command ++ " exited with " ++ decimalInt o.code ++ " (" ++ decimal o.stderr.length ++
      " bytes of diagnostics)"),
    if ! o.succeeded && o.stderr.all isBlankByte then .error (.engine (.invocation (.silent command o.code)))
    else .ok o)

/-- A whole run for a source file. -/
def run (t : Toolchain) (s : Settings) (source : String) (workspace : Option String) :
    List Event × Except Failure Output :=
  match begin t s source workspace with
  | (events, .error f) => (events, .error f)
  | (events, .ok reply) =>
    let (event, r) := conclude s.command reply.output
    (events ++ [event], r)

/-- The diagnostics of an output as text. -/
def textOf (o : Output) (encoding : String) : Except Failure String := decodeText o.stderr encoding "compiler output"

end Diagnosis.Compiler
