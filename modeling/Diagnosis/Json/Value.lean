import Diagnosis.Keyed
import Diagnosis.Number.Binary64

/-!
# JSON values

Values as JSON text gives them. An object keeps the order in which its keys
first came; a key that comes again changes its value in place.
-/

namespace Diagnosis.Json

open Diagnosis.Number (Binary64)

/-- A JSON value; whole numbers and floating-point numbers are told apart by their spelling. -/
inductive Value where
  | null
  | bool (b : Bool)
  | int (n : Int)
  | real (x : Binary64)
  | text (s : String)
  | list (items : List Value)
  | object (fields : List (String × Value))
  deriving Repr, Inhabited

/-- The fields of an object. -/
abbrev Fields := List (String × Value)

/-- The value of a key. -/
def Fields.get? (key : String) : Fields → Option Value
  | [] => none
  | (k, v) :: rest => if k = key then some v else Fields.get? key rest

/-- Fields with a key's value changed where the key stands, or the key added at the end. -/
def Fields.put (key : String) (value : Value) : Fields → Fields
  | [] => [(key, value)]
  | (k, v) :: rest => if k = key then (k, value) :: rest else (k, v) :: Fields.put key value rest

/-- The keys of an object in order. -/
def Fields.keys (fields : Fields) : List String := fields.map Prod.fst

/-- The fields of an object, none of any other value. -/
def Value.fields? : Value → Option Fields
  | .object fields => some fields
  | _ => none

/-- The string of a string value. -/
def Value.text? : Value → Option String
  | .text s => some s
  | _ => none

/-- The number of a whole-number value. -/
def Value.int? : Value → Option Int
  | .int n => some n
  | _ => none

/-- The members of a list value. -/
def Value.list? : Value → Option (List Value)
  | .list items => some items
  | _ => none

/-! ## Objects as values under keys -/

theorem Fields.get?_eq_keyed (key : String) (fields : Fields) : Fields.get? key fields = Keyed.get? key fields := by
  induction fields with
  | nil => rfl
  | cons e rest ih => rw [get?, Keyed.get?, ih]

theorem Fields.put_eq_keyed (key : String) (value : Value) (fields : Fields) :
    Fields.put key value fields = Keyed.put key value fields := by
  induction fields with
  | nil => rfl
  | cons e rest ih => rw [put, Keyed.put, ih]

@[simp] theorem Fields.get?_put_self (key : String) (value : Value) (fields : Fields) :
    Fields.get? key (Fields.put key value fields) = some value := by
  rw [get?_eq_keyed, put_eq_keyed, Keyed.get?_put_self]

theorem Fields.get?_put_of_ne {key other : String} (h : other ≠ key) (value : Value) (fields : Fields) :
    Fields.get? other (Fields.put key value fields) = Fields.get? other fields := by
  rw [get?_eq_keyed, put_eq_keyed, Keyed.get?_put_of_ne h, get?_eq_keyed]

end Diagnosis.Json
