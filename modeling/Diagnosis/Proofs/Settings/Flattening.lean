import Mathlib.Data.List.Nodup
import Diagnosis.Proofs.Settings.Completion
import Diagnosis.Proofs.Settings.Nesting

/-!
# Dotted and nested spellings

A layer without dotted keys can be spelled with nothing but dotted ones: one for each plain value
and each empty object in it. Nesting the dotted keys gives the layer back, so that both spellings
give the same settings.
-/

namespace Diagnosis.Settings

open Diagnosis.Json

variable {fields : Fields} {v : Value} {key : String} {path : List String}

/-! ## Leaves -/

/-- A value that has nothing below it: no object, or an empty one. -/
def IsLeaf (v : Value) : Prop := v.fields? = none ∨ v = .object []

mutual
/-- The leaves of a value by their paths, depth first. -/
def leavesOf : Value → List (List String × Value)
  | .object fields => if fields.isEmpty then [([], .object [])] else leavesIn fields
  | v => [([], v)]
termination_by structural v => v
/-- The leaves of the values of some fields by their paths. -/
def leavesIn : List (String × Value) → List (List String × Value)
  | [] => []
  | e :: rest => leavesAt e ++ leavesIn rest
termination_by structural es => es
/-- The leaves of the value of a field by their paths. -/
def leavesAt : String × Value → List (List String × Value)
  | (key, v) => (leavesOf v).map fun leaf => (key :: leaf.1, leaf.2)
termination_by structural e => e
end

/-- The fields with a dotted key for every leaf. -/
def flatten (fields : Fields) : Fields := (leavesIn fields).map fun leaf => (".".intercalate leaf.1, leaf.2)

theorem leavesIn_eq_flatMap (es : List (String × Value)) : leavesIn es = es.flatMap leavesAt := by
  induction es with
  | nil => rfl
  | cons e rest ih => rw [leavesIn, ih, List.flatMap_cons]

theorem leavesOf_of_isLeaf (leaf : IsLeaf v) : leavesOf v = [([], v)] := by
  rcases leaf with plain | rfl
  · cases v with
    | object fields => cases plain
    | _ => rfl
  · rfl

theorem leavesOf_object (some_field : fields ≠ []) : leavesOf (.object fields) = leavesIn fields := by
  rw [leavesOf, if_neg (by simpa using some_field)]

theorem mem_leavesAt {e : String × Value} :
    (path, v) ∈ leavesAt e ↔ ∃ rest, path = e.1 :: rest ∧ (rest, v) ∈ leavesOf e.2 := by
  obtain ⟨key, w⟩ := e
  rw [leavesAt, List.mem_map]
  constructor
  · rintro ⟨⟨rest, u⟩, member, same⟩
    cases same
    exact ⟨rest, rfl, member⟩
  · rintro ⟨rest, rfl, member⟩
    exact ⟨(rest, v), member, rfl⟩

theorem leavesOf_ne_nil {v : Value} (tidy : Tidy v) : leavesOf v ≠ [] := by
  induction tidy with
  | @leaf v plain => simp [leavesOf_of_isLeaf (.inl plain)]
  | @object fields _ _ _ ih =>
    cases fields with
    | nil => simp [leavesOf_of_isLeaf (.inr rfl)]
    | cons e rest =>
      obtain ⟨key, w⟩ := e
      have first := ih _ List.mem_cons_self
      simpa [leavesOf_object, leavesIn, leavesAt] using fun none_such => absurd none_such first

theorem mem_leavesOf_of_isLeaf {w : Value} (leaf : IsLeaf w) :
    (path, v) ∈ leavesOf w ↔ IsLeaf v ∧ valueAt? path w = some v := by
  rw [leavesOf_of_isLeaf leaf, List.mem_singleton, Prod.mk.injEq]
  constructor
  · rintro ⟨rfl, rfl⟩
    exact ⟨leaf, rfl⟩
  · rintro ⟨_, found⟩
    cases path with
    | nil => exact ⟨rfl, (Option.some.inj found).symm⟩
    | cons key rest =>
      rcases leaf with plain | rfl
      · rw [valueAt?_of_leaf (List.cons_ne_nil key rest) plain] at found
        cases found
      · cases found

/-- The leaves of a value are the leaves that its paths lead to. -/
theorem mem_leavesOf {w : Value} (tidy : Tidy w) :
    (path, v) ∈ leavesOf w ↔ IsLeaf v ∧ valueAt? path w = some v := by
  induction tidy generalizing path with
  | leaf plain => exact mem_leavesOf_of_isLeaf (.inl plain)
  | @object fields single _ _ ih =>
    by_cases empty : fields = []
    · exact mem_leavesOf_of_isLeaf (.inr (by rw [empty]))
    · rw [leavesOf_object empty, leavesIn_eq_flatMap, List.mem_flatMap]
      constructor
      · rintro ⟨⟨key, u⟩, member, among⟩
        obtain ⟨rest, rfl, inner⟩ := mem_leavesAt.mp among
        obtain ⟨leaf, found⟩ := (ih _ member).mp inner
        exact ⟨leaf, by rw [valueAt?, get?_of_mem single member]; exact found⟩
      · rintro ⟨leaf, found⟩
        cases path with
        | nil =>
          cases found
          rcases leaf with plain | same
          · cases plain
          · exact absurd (Value.object.inj same) empty
        | cons key rest =>
          obtain ⟨u, here, further⟩ := Option.bind_eq_some_iff.mp found
          have member := mem_of_get? here
          exact ⟨(key, u), member, mem_leavesAt.mpr ⟨rest, rfl, (ih _ member).mpr ⟨leaf, further⟩⟩⟩

/-- The leaves in an object are at its paths that are not empty. -/
theorem mem_leavesIn (tidy : Tidy (.object fields)) :
    (path, v) ∈ leavesIn fields ↔ path ≠ [] ∧ IsLeaf v ∧ valueAt? path (.object fields) = some v := by
  by_cases empty : fields = []
  · subst empty
    refine iff_of_false List.not_mem_nil fun ⟨some_path, _, found⟩ => ?_
    rw [valueAt?_nothing some_path] at found
    cases found
  · rw [← leavesOf_object empty, mem_leavesOf tidy]
    refine (and_iff_right_of_imp ?_).symm
    rintro ⟨leaf, found⟩ rfl
    cases found
    rcases leaf with plain | same
    · cases plain
    · exact empty (Value.object.inj same)

/-- No two leaves have the same path. -/
theorem nodup_leavesOf (tidy : Tidy v) : ((leavesOf v).map Prod.fst).Nodup := by
  induction tidy with
  | leaf plain => simp [leavesOf_of_isLeaf (.inl plain)]
  | @object fields single _ _ ih =>
    by_cases empty : fields = []
    · simp [leavesOf_of_isLeaf (.inr (congrArg Value.object empty))]
    · rw [leavesOf_object empty, leavesIn_eq_flatMap, List.map_flatMap, List.nodup_flatMap]
      refine ⟨fun e member => ?_, ?_⟩
      · have below := (ih e member).map (List.cons_injective (a := e.1))
        obtain ⟨key, w⟩ := e
        rw [leavesAt, List.map_map]
        rwa [List.map_map] at below
      · -- leaves below different keys have different paths
        refine (List.pairwise_map.mp single).imp fun {a b} other path left right => ?_
        obtain ⟨⟨_, v⟩, below, rfl⟩ := List.mem_map.mp left
        obtain ⟨⟨_, w⟩, belowToo, same⟩ := List.mem_map.mp right
        obtain ⟨_, rfl, _⟩ := mem_leavesAt.mp below
        obtain ⟨_, rfl, _⟩ := mem_leavesAt.mp belowToo
        exact other (List.cons.inj same).1.symm

theorem undotted_of_valueAt? {w : Value} (tidy : Tidy w) (found : valueAt? path w = some v) :
    ∀ part ∈ path, '.' ∉ part.toList := by
  induction path generalizing w with
  | nil => simp
  | cons key rest ih =>
    cases w with
    | object fields =>
      obtain ⟨u, here, further⟩ := Option.bind_eq_some_iff.mp found
      exact List.forall_mem_cons.mpr ⟨tidy.fields.2.1 (key, u) (mem_of_get? here), ih (tidy.get? here) further⟩
    | _ => cases found

/-! ## Putting the leaves back -/

/-- Values put at paths one after the other. -/
def putAll (leaves : List (List String × Value)) (done : Fields) : Fields :=
  leaves.foldl (fun done leaf => putAt leaf.1 leaf.2 done) done

theorem put_put (key : String) (v w : Value) (fields : Fields) :
    Fields.put key w (Fields.put key v fields) = Fields.put key w fields := by
  induction fields with
  | nil => simp [Fields.put]
  | cons e rest ih =>
    obtain ⟨other, u⟩ := e
    by_cases here : other = key
    · simp [Fields.put, here]
    · simp [Fields.put, here, ih]

/-- Values put at paths below a key are put into the object under the key. -/
theorem putAll_below {leaves : List (List String × Value)} (some_leaf : leaves ≠ [])
    (some_path : ∀ leaf ∈ leaves, leaf.1 ≠ []) (key : String) (done : Fields) :
    putAll (leaves.map fun leaf => (key :: leaf.1, leaf.2)) done =
      Fields.put key (.object (putAll leaves (inside key done))) done := by
  induction leaves generalizing done with
  | nil => exact absurd rfl some_leaf
  | cons leaf rest ih =>
    obtain ⟨here, later⟩ := List.forall_mem_cons.mp some_path
    have first : putAll ((leaf :: rest).map fun leaf => (key :: leaf.1, leaf.2)) done =
        putAll (rest.map fun leaf => (key :: leaf.1, leaf.2))
          (Fields.put key (.object (putAt leaf.1 leaf.2 (inside key done))) done) := by
      rw [← putAt_cons here]
      rfl
    rw [first]
    by_cases last : rest = []
    · rw [last]
      rfl
    · rw [ih last later, inside_of_object (Fields.get?_put_self ..), put_put]
      rfl

/-- The leaves of fields with keys that are not there yet, put at their paths, are the fields again. -/
theorem putAll_leavesIn {es done : Fields}
    (each : ∀ e ∈ es, ∀ done : Fields, e.1 ∉ done.keys → putAll (leavesAt e) done = done ++ [e])
    (single : (done.keys ++ Fields.keys es).Nodup) : putAll (leavesIn es) done = done ++ es := by
  induction es generalizing done with
  | nil => simp [leavesIn, putAll]
  | cons e rest ih =>
    have absent : e.1 ∉ done.keys := fun member =>
      (List.nodup_append.mp single).2.2 e.1 member e.1 (by simp [Fields.keys]) rfl
    obtain ⟨here, later⟩ := List.forall_mem_cons.mp each
    rw [leavesIn, putAll, List.foldl_append]
    change putAll (leavesIn rest) (putAll (leavesAt e) done) = _
    rw [here done absent, ih later (by simpa [Fields.keys] using single)]
    simp

theorem putAll_leavesAt (tidy : Tidy v) {done : Fields} (absent : key ∉ done.keys) :
    putAll (leavesAt (key, v)) done = done ++ [(key, v)] := by
  have alone {w : Value} (leaf : IsLeaf w) {key : String} {done : Fields} (absent : key ∉ done.keys) :
      putAll (leavesAt (key, w)) done = done ++ [(key, w)] := by
    rw [leavesAt, leavesOf_of_isLeaf leaf]
    change Fields.put key (mergeValue w (Fields.get? key done)) done = _
    rw [get?_eq_none_iff.mpr absent, mergeValue_none, put_of_not_mem absent]
  induction tidy generalizing key done with
  | leaf plain => exact alone (.inl plain) absent
  | @object fields single named inner ih =>
    by_cases empty : fields = []
    · exact alone (.inr (congrArg Value.object empty)) absent
    · have tidy : Tidy (.object fields) := .object single named inner
      have some_leaf := leavesOf_ne_nil tidy
      rw [leavesOf_object empty] at some_leaf
      have nothing : inside key done = [] :=
        inside_of_no_object fun inner => by simp [get?_eq_none_iff.mpr absent]
      rw [leavesAt, leavesOf_object empty,
        putAll_below some_leaf fun leaf member => ((mem_leavesIn tidy).mp member).1, nothing,
        putAll_leavesIn (fun e member done => ih e member) (by simpa [Fields.keys] using single),
        List.nil_append, put_of_not_mem absent]

/-! ## Both spellings -/

theorem keyParts_of_mem_leavesIn (tidy : Tidy (.object fields)) (member : (path, v) ∈ leavesIn fields) :
    keyParts (".".intercalate path) = path := by
  obtain ⟨some_path, _, found⟩ := (mem_leavesIn tidy).mp member
  exact keyParts_intercalate some_path (undotted_of_valueAt? tidy found)

/-- The dotted spelling has a key for each leaf, and nothing else. -/
theorem mem_flatten (tidy : Tidy (.object fields)) :
    (key, v) ∈ flatten fields ↔ IsLeaf v ∧ lookup? fields key = some v := by
  rw [flatten, List.mem_map]
  constructor
  · rintro ⟨⟨path, w⟩, member, same⟩
    cases same
    rw [lookup?, keyParts_of_mem_leavesIn tidy member]
    exact ((mem_leavesIn tidy).mp member).2
  · rintro ⟨leaf, found⟩
    have member := (mem_leavesIn tidy).mpr ⟨keyParts_ne_nil key, leaf, found⟩
    exact ⟨(keyParts key, v), member, by rw [intercalate_keyParts]⟩

theorem nodup_keys_flatten (tidy : Tidy (.object fields)) : (flatten fields).keys.Nodup := by
  by_cases empty : fields = []
  · subst empty
    exact List.nodup_nil
  · have paths := nodup_leavesOf tidy
    rw [leavesOf_object empty] at paths
    have joined : (flatten fields).keys = ((leavesIn fields).map Prod.fst).map (".".intercalate ·) := by
      simp [Fields.keys, flatten]
    rw [joined]
    refine paths.map_on fun left atLeft right atRight same => ?_
    obtain ⟨⟨_, v⟩, member, rfl⟩ := List.mem_map.mp atLeft
    obtain ⟨⟨_, w⟩, memberToo, rfl⟩ := List.mem_map.mp atRight
    rw [← keyParts_of_mem_leavesIn tidy member, ← keyParts_of_mem_leavesIn tidy memberToo, same]

theorem expand_flatten (tidy : Tidy (.object fields)) : expand (flatten fields) = fields := by
  have leaves : expand (flatten fields) = putAll (leavesIn fields) [] := by
    rw [expand, expandInto_eq_foldl, flatten, List.foldl_map, putAll]
    refine List.foldl_ext _ _ _ fun done leaf member => ?_
    obtain ⟨path, v⟩ := leaf
    have unchanged : expandValue v = v := by
      rcases ((mem_leavesIn tidy).mp member).2.1 with plain | rfl
      · exact (Tidy.leaf plain).expandValue
      · rfl
    rw [keyParts_of_mem_leavesIn tidy member, unchanged]
  obtain ⟨single, _, inner⟩ := tidy.fields
  rw [leaves, putAll_leavesIn (fun e member done => putAll_leavesAt (inner e member))
    (by simpa [Fields.keys] using single)]
  rfl

/-- Dotted and nested keys mean the same. Once its dotted keys are nested, a layer has none, and nesting
them again changes nothing, neither in the layer nor in the settings that it gives. A layer without dotted
keys stays as it is; its dotted spelling has one key for each leaf, and gives it back when the keys are
nested; and the settings, or what is wrong with them, are the same for both spellings, nested or not. -/
theorem nested_or_dotted (data : Fields) (tidy : Tidy (.object fields)) :
    (Tidy (.object (expand data)) ∧ expand (expand data) = expand data ∧ ofFields (expand data) = ofFields data) ∧
    expand fields = fields ∧
    ((flatten fields).keys.Nodup ∧ ∀ key v, (key, v) ∈ flatten fields ↔ IsLeaf v ∧ lookup? fields key = some v) ∧
    expand (flatten fields) = fields ∧
    ofFields (flatten fields) = ofFields fields ∧ ofFields (expand fields) = ofFields fields ∧
    ofFields (expand (flatten fields)) = ofFields fields := by
  have expanded : Tidy (.object (expand data)) := tidy_expandable.expand fun _ _ => trivial
  have whole := expand_flatten tidy
  refine ⟨⟨expanded, expanded.expand, ?_⟩, tidy.expand, ⟨nodup_keys_flatten tidy, fun _ _ => mem_flatten tidy⟩,
    whole, ?_, ?_, ?_⟩
  · rw [ofFields, expanded.expand, ofFields]
  · rw [ofFields, whole, ofFields, tidy.expand]
  · rw [tidy.expand]
  · rw [whole]

/-- What is built in, spelled with a dotted key for every setting. -/
theorem nested_or_dotted_builtIn :
    Tidy (.object builtIn) ∧
      (flatten builtIn).keys = ["maxNumberOfProblems", "compileCommand", "compileOptions", "includeOptionPrefix",
        "includePath.absolute", "includePath.relative", "diagDelimiter", "parse.encoding", "parse.diagInfoPattern",
        "parse.index.file_name", "parse.index.line_pos", "parse.index.char_pos", "parse.index.severity",
        "parse.severityIdentifier.error", "parse.severityIdentifier.warning", "parse.severityIdentifier.information",
        "parse.severityIdentifier.hint"] ∧
      expand (flatten builtIn) = builtIn ∧ ofFields (flatten builtIn) = .ok {} := by
  obtain ⟨_, _, _, back, same, _⟩ := nested_or_dotted (flatten builtIn) builtIn_tidy
  exact ⟨builtIn_tidy, by decide +kernel, back, same.trans (by decide +kernel)⟩

end Diagnosis.Settings
