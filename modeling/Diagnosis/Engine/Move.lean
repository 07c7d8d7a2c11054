import Diagnosis.Engine.Trigger

/-!
# The moves of an engine

Everything that happens to an engine, one move after the other. Errands have
their turns in any order, and outputs come at any time, so that a run is one of
all the ways in which validations may get in each other's way.
-/

namespace Diagnosis.Engine

/-- The errand at a place of the queue has its turn. -/
def turn (e : Engine) (k : Nat) : Engine :=
  match e.queue[k]? with
  | none => e
  | some errand => { e with queue := e.queue.eraseIdx k }.perform errand

/-- Something that happens to an engine. -/
inductive Move where
  /-- A document is opened or saved. -/
  | opened (d : Document)
  | closed (uri : String)
  /-- The configuration has changed. -/
  | configured
  | shut
  /-- A file is read. -/
  | loaded (path : String) (version : Int)
  /-- Somebody asks for the settings of a document. -/
  | consulted (d : Document)
  /-- The output comes that a validation waits for. -/
  | released (n : Nat)
  /-- The errand at a place of the queue has its turn. -/
  | turned (k : Nat)
  /-- Files and compilers become others. -/
  | moved (machine : Machine)

/-- An engine after a move. -/
def after (e : Engine) : Move → Engine
  | .opened d => (e.openDocument d).1
  | .closed uri => (e.closeDocument uri).1
  | .configured => e.configurationChanged.1
  | .shut => e.shutdown
  | .loaded path version => (e.load path version).1
  | .consulted d => (e.settingsFor d.uri d.path).1
  | .released n => e.release n
  | .turned k => e.turn k
  | .moved machine => { e with machine }

/-- An engine after moves. -/
def run (e : Engine) (moves : List Move) : Engine := moves.foldl after e

/-- The turns in which an engine works until its queue is empty. -/
def settling (e : Engine) : List Move := List.replicate (2 * e.queue.length) (.turned 0)

end Diagnosis.Engine
