import Diagnosis.CommandLine.Run
import Diagnosis.Json.Reader

/-!
# Recorded machines

A machine on record: an object with the texts of its files, what the compiler
said about each source file and how it ended, the commands that are not there,
and the directory that the command line runs in.
-/

namespace Diagnosis.CommandLine

open Diagnosis.Encoding
open Diagnosis.Json (Value)

/-- A member of an object; of anything else there is none. -/
def member? (key : String) (v : Value) : Option Value := v.fields?.bind (Json.Fields.get? key)

/-- The members of a member that is an object. -/
def membersOf (key : String) (v : Value) : Json.Fields := ((member? key v).bind Value.fields?).getD []

/-- The text of a member, or another one. -/
def textOf (key other : String) (v : Value) : String := ((member? key v).bind Value.text?).getD other

/-- A tree with a file of some text and the directories above it; one that cannot stand there is
left out. -/
def withFile (t : FileTree) (path text : String) : FileTree :=
  match t.makeDirectories [] (Path.ofString path).parent with
  | .error _ => t
  | .ok above => (above.write [] path (Utf8.encode text.toList)).toOption.getD t

/-- A tree of the files on record. -/
def treeOf (files : Json.Fields) : FileTree :=
  files.foldl (fun t (path, v) => withFile t path (v.text?.getD "")) {}

/-- What the compiler said. Unless its status is on record, it failed if it said something. -/
def replyOf (v : Value) : Reply :=
  let said := Utf8.encode (textOf "stderr" "" v).toList
  { output := ⟨[], said, ((member? "status" v).bind Value.int?).getD (if said.isEmpty then 0 else 1)⟩ }

/-- The machine on record. -/
def machineOf (v : Value) : Machine :=
  { tree := treeOf (membersOf "files" v)
    directory := (Path.ofString (textOf "directory" "/" v)).parts
    toolchain := {
      missing := (((member? "missing" v).bind Value.list?).getD []).filterMap Value.text?
      answer := Toolchain.byName ((membersOf "compiler" v).map fun (file, reply) => (file, replyOf reply)) } }

/-- The world on record; without a record there is nothing in it. -/
def settingOf (text : String) : Except String Setting :=
  if text.isEmpty then .ok { machine := ⟨{}, [], {}⟩, home := "/" } else
  match Json.readChars text.toList with
  | .ok v => .ok { machine := machineOf v, home := textOf "home" "/" v }
  | .error e => .error (e.message text.toList)

end Diagnosis.CommandLine
