import Diagnosis.Json.Value

/-!
# Layers of settings

A layer is a JSON object. Its keys may be nested or dotted: `a.b` stands for
`b` inside of `a`. One layer goes over another path by path: objects are
merged, anything else is replaced.
-/

namespace Diagnosis.Settings

open Diagnosis.Json

mutual
/-- What a value becomes when it is put over an old one. -/
def mergeValue : Value → Option Value → Value
  | .object upper, some (.object base) => .object (merge upper base)
  | v, _ => v
termination_by structural v => v
/-- Fields put over others one after the other. -/
def merge : List (String × Value) → Fields → Fields
  | [], base => base
  | e :: rest, base => merge rest (mergeEntry e base)
termination_by structural es => es
/-- A field put over others. -/
def mergeEntry : String × Value → Fields → Fields
  | (key, v), base => Fields.put key (mergeValue v (Fields.get? key base)) base
termination_by structural e => e
end

/-- Fields put over others; keys of the base come first, then new ones in their order. -/
def overlay (base override : Fields) : Fields := merge override base

/-- The parts of a key between its dots. -/
def splitDots : List Char → List (List Char)
  | [] => [[]]
  | c :: rest =>
    if c = '.' then [] :: splitDots rest
    else match splitDots rest with
      | [] => [[c]]
      | part :: parts => (c :: part) :: parts

/-- The parts of a key between its dots. -/
def keyParts (key : String) : List String := (splitDots key.toList).map String.ofList

/-- A value put at a path, in place of whatever stands in its way and is no object. -/
def putAt : List String → Value → Fields → Fields
  | [], _, fields => fields
  | [key], v, fields => Fields.put key (mergeValue v (Fields.get? key fields)) fields
  | key :: rest, v, fields =>
    let inner := match Fields.get? key fields with
      | some (.object inner) => inner
      | _ => []
    Fields.put key (.object (putAt rest v inner)) fields

mutual
/-- A value with the dotted keys of its objects nested; lists stay as they are. -/
def expandValue : Value → Value
  | .object fields => .object (expandInto fields [])
  | v => v
termination_by structural v => v
/-- Fields put into others with their dotted keys nested. -/
def expandInto : List (String × Value) → Fields → Fields
  | [], done => done
  | e :: rest, done => expandInto rest (expandEntry e done)
termination_by structural es => es
/-- A field put into others with its dotted key nested. -/
def expandEntry : String × Value → Fields → Fields
  | (key, v), done => putAt (keyParts key) (expandValue v) done
termination_by structural e => e
end

/-- Fields with their dotted keys nested. -/
def expand (fields : Fields) : Fields := expandInto fields []

/-- The value at a path. -/
def valueAt? : List String → Value → Option Value
  | [], v => some v
  | key :: rest, .object fields => (Fields.get? key fields).bind (valueAt? rest)
  | _ :: _, _ => none

/-- The value of a dotted key. -/
def lookup? (fields : Fields) (key : String) : Option Value := valueAt? (keyParts key) (.object fields)

end Diagnosis.Settings
