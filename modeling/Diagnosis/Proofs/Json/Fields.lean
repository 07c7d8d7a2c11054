import Diagnosis.Json.Value

/-!
# Keys of objects

What an object has under its keys, and what becomes of the keys when a value is put under one.
-/

namespace Diagnosis.Json

@[simp] theorem get?_nil (key : String) : Fields.get? key [] = none := rfl

theorem get?_cons (key other : String) (v : Value) (rest : Fields) :
    Fields.get? key ((other, v) :: rest) = if other = key then some v else Fields.get? key rest := rfl

theorem get?_put (key other : String) (v : Value) (fields : Fields) :
    Fields.get? other (Fields.put key v fields) = if key = other then some v else Fields.get? other fields := by
  by_cases here : key = other
  · subst here
    rw [if_pos rfl, Fields.get?_put_self]
  · rw [if_neg here, Fields.get?_put_of_ne (Ne.symm here)]

theorem get?_eq_none_iff {key : String} {fields : Fields} : Fields.get? key fields = none ↔ key ∉ fields.keys := by
  rw [Fields.get?_eq_keyed]
  exact Keyed.get?_eq_none_iff

theorem mem_of_get? {key : String} {v : Value} {fields : Fields} (found : Fields.get? key fields = some v) :
    (key, v) ∈ fields := by
  rw [Fields.get?_eq_keyed] at found
  exact Keyed.mem_of_get? found

theorem get?_of_mem {key : String} {v : Value} {fields : Fields} (single : fields.keys.Nodup)
    (member : (key, v) ∈ fields) : Fields.get? key fields = some v := by
  rw [Fields.get?_eq_keyed]
  exact Keyed.get?_of_mem single member

theorem keys_put (key : String) (v : Value) (fields : Fields) :
    (Fields.put key v fields).keys = if key ∈ fields.keys then fields.keys else fields.keys ++ [key] := by
  rw [Fields.put_eq_keyed]
  exact Keyed.keys_put key v fields

theorem mem_put {key : String} {v : Value} {fields : Fields} {e : String × Value}
    (member : e ∈ Fields.put key v fields) : e = (key, v) ∨ e ∈ fields := by
  rw [Fields.put_eq_keyed] at member
  exact Keyed.mem_put member

theorem nodup_keys_put {fields : Fields} (single : fields.keys.Nodup) (key : String) (v : Value) :
    (Fields.put key v fields).keys.Nodup := by
  rw [Fields.put_eq_keyed]
  exact Keyed.nodup_keys_put single key v

/-- Putting a key that is not there adds it at the end. -/
theorem put_of_not_mem {key : String} {fields : Fields} (absent : key ∉ fields.keys) (v : Value) :
    Fields.put key v fields = fields ++ [(key, v)] := by
  induction fields with
  | nil => rfl
  | cons e rest ih =>
    obtain ⟨other, w⟩ := e
    simp only [Fields.keys, List.map_cons, List.mem_cons, not_or] at absent ih
    rw [Fields.put, if_neg (Ne.symm absent.1), ih absent.2]
    rfl

end Diagnosis.Json
