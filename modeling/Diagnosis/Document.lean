import Diagnosis.Encoding.Decode
import Diagnosis.FileTree.Resolve
import Diagnosis.Uri.File

/-!
# Documents

The text of a source file at one time. A document is known by its address,
which stands for the path of the file without links.
-/

namespace Diagnosis

/-- A source file as it was read. -/
structure Document where
  uri : String
  path : String
  text : String
  version : Int := 0
  deriving DecidableEq, Repr, Inhabited

namespace Document

/-- The name that a compiler knows the file by. -/
def name (d : Document) : String := fileName d.path

/-- Reads a file in an encoding. -/
def read (t : FileTree) (directory : List String) (path encoding : String) (version : Int) :
    Except Failure Document := do
  let resolved := (← t.resolve directory path).text
  let bytes ← (t.read directory resolved).mapError .system
  let text ← decodeText bytes encoding resolved
  return ⟨Uri.ofPath resolved, resolved, text, version⟩

end Document

end Diagnosis
