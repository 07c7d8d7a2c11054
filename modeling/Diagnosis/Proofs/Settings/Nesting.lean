import Diagnosis.Proofs.Settings.Layer

/-!
# Nesting as merging

The dotted keys of a layer are nested by putting its entries over one another, the first one lowest:
an entry stands for the object that has its value, and nothing else, under the parts of its key.
-/

namespace Diagnosis.Settings

open Diagnosis.Json

/-! ## Parts of keys -/

theorem intercalate_keyParts (key : String) : ".".intercalate (keyParts key) = key := by
  rw [← String.toList_inj, String.toList_intercalate, keyParts_eq_splitOn, List.map_map]
  have parts : String.toList ∘ String.ofList = id := funext fun cs => String.toList_ofList
  rw [parts, List.map_id]
  exact List.intercalate_splitOn '.'

theorem keyParts_intercalate {path : List String} (some_path : path ≠ [])
    (undotted : ∀ part ∈ path, '.' ∉ part.toList) : keyParts (".".intercalate path) = path := by
  have split : (['.'].intercalate (path.map String.toList)).splitOn '.' = path.map String.toList :=
    List.splitOn_intercalate '.' (by simpa using undotted) (by simpa using some_path)
  have parts : String.ofList ∘ String.toList = id := funext fun s => String.ofList_toList
  rw [keyParts_eq_splitOn, String.toList_intercalate]
  change ((['.'].intercalate (path.map String.toList)).splitOn '.').map String.ofList = path
  rw [split, List.map_map, parts, List.map_id]

/-! ## Values under paths -/

/-- The fields with nothing but a value at a path. -/
def nest : List String → Value → Fields
  | [], _ => []
  | [key], v => [(key, v)]
  | key :: rest, v => [(key, .object (nest rest v))]

theorem overlay_nil_nest (path : List String) (v : Value) : overlay [] (nest path v) = nest path v := by
  have lone (key : String) (w : Value) : overlay [] [(key, w)] = [(key, w)] := by
    change Fields.put key (mergeValue w none) [] = _
    rw [mergeValue_none]
    rfl
  match path with
  | [] => rfl
  | [key] => exact lone key v
  | key :: next :: more => exact lone key (.object (nest (next :: more) v))

/-- To put a value at a path is to put the fields with nothing but that value over what is there. -/
theorem overlay_nest (path : List String) (v : Value) (fields : Fields) :
    overlay fields (nest path v) = putAt path v fields := by
  induction path generalizing fields with
  | nil => rfl
  | cons key rest ih =>
    cases rest with
    | nil => rfl
    | cons next more =>
      change Fields.put key (mergeValue (.object (nest (next :: more) v)) (Fields.get? key fields)) fields = _
      rw [putAt_cons (by simp), ← ih]
      rcases mergeValue_cases (.object (nest (next :: more) v)) (Fields.get? key fields) with
        ⟨_, inner, same, found, merged⟩ | ⟨kept, unlike⟩
      · cases same
        rw [merged, inside_of_object found]
      · rw [kept, inside_of_no_object fun inner => unlike _ inner rfl, overlay_nil_nest]

theorem expandInto_eq_foldl (es : List (String × Value)) (done : Fields) :
    expandInto es done = es.foldl (fun done e => putAt (keyParts e.1) (expandValue e.2) done) done := by
  induction es generalizing done with
  | nil => rfl
  | cons e rest ih =>
    obtain ⟨key, v⟩ := e
    rw [expandInto, ih]
    rfl

/-- Nesting the dotted keys of a layer is putting its entries, each with its value under the parts of its
key, over one another; the dotted keys of an object that is such a value are nested as well. -/
theorem expand_eq_foldl_overlay (fields : Fields) :
    expand fields = fields.foldl (fun done e =>
      overlay done (nest ((e.1.toList.splitOn '.').map String.ofList)
        (match e.2 with
          | .object inner => .object (expand inner)
          | v => v))) [] := by
  rw [expand, expandInto_eq_foldl]
  congr
  funext done e
  rw [overlay_nest, keyParts_eq_splitOn]
  cases e.2 <;> rfl

/-- A plain value in the way of a dotted key gives way, and the object is merged with the one that comes later. -/
example : expand [("a", .int 1), ("a.b", .int 2), (".", .null), ("a", .object [("c.", .int 3)])] =
    [("a", .object [("b", .int 2), ("c", .object [("", .int 3)])]), ("", .object [("", .null)])] := by
  rfl

end Diagnosis.Settings
