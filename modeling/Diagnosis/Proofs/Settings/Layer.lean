import Diagnosis.Proofs.Json.Fields
import Diagnosis.Proofs.Text.Cut
import Diagnosis.Settings.Check

/-!
# Tidy layers

Layers whose keys are no longer dotted, and of which none comes twice, stay so when they are put over
one another and when values are put at paths in them; nesting the dotted keys of any layer makes
it tidy, and leaves a tidy one as it is. A value put at a path is found there, and changes nothing that is
found elsewhere.
-/

namespace Diagnosis.Settings

open Diagnosis.Json

/-! ## Tidy values -/

/-- No key of an object, and of the objects in it, is dotted, and none comes twice. Lists are not
looked into. -/
inductive Tidy : Value → Prop where
  | object {fields : Fields} (single : fields.keys.Nodup) (named : ∀ e ∈ fields, '.' ∉ e.1.toList)
      (inner : ∀ e ∈ fields, Tidy e.2) : Tidy (.object fields)
  | leaf {v : Value} (plain : v.fields? = none) : Tidy v

theorem Tidy.fields {fields : Fields} (tidy : Tidy (.object fields)) :
    fields.keys.Nodup ∧ (∀ e ∈ fields, '.' ∉ e.1.toList) ∧ ∀ e ∈ fields, Tidy e.2 := by
  cases tidy with
  | object single named inner => exact ⟨single, named, inner⟩
  | leaf plain => cases plain

theorem tidy_nil : Tidy (.object []) := .object .nil (by simp) (by simp)

/-- The built-in layer is tidy. -/
theorem builtIn_tidy : Tidy (.object builtIn) := by
  have leaves {fields : Fields} (single : fields.keys.Nodup) (named : ∀ e ∈ fields, '.' ∉ e.1.toList)
      (plain : ∀ e ∈ fields, e.2.fields? = none) : Tidy (.object fields) :=
    .object single named fun e member => .leaf (plain e member)
  refine .object (by decide +kernel) (by decide +kernel) ?_
  simp only [builtIn, List.forall_mem_cons]
  refine ⟨.leaf rfl, .leaf rfl, .leaf rfl, .leaf rfl, ?_, .leaf rfl, ?_, by simp⟩
  · exact leaves (by decide) (by decide +kernel) (by simp [Value.fields?])
  · refine .object (by decide) (by decide +kernel) ?_
    simp only [List.forall_mem_cons]
    refine ⟨.leaf rfl, .leaf rfl, ?_, ?_, by simp⟩
    · exact leaves (by decide) (by decide +kernel) (by simp [Value.fields?])
    · exact leaves (by decide) (by decide +kernel) (by simp [Value.fields?])

theorem Tidy.get? {fields : Fields} (tidy : Tidy (.object fields)) {key : String} {v : Value}
    (found : Fields.get? key fields = some v) : Tidy v :=
  tidy.fields.2.2 (key, v) (mem_of_get? found)

theorem Tidy.put {fields : Fields} (tidy : Tidy (.object fields)) {key : String} (undotted : '.' ∉ key.toList)
    {v : Value} (inner : Tidy v) : Tidy (.object (Fields.put key v fields)) := by
  obtain ⟨single, named, inners⟩ := tidy.fields
  refine .object (nodup_keys_put single key v) (fun e member => ?_) (fun e member => ?_)
  · rcases mem_put member with rfl | old
    · exact undotted
    · exact named e old
  · rcases mem_put member with rfl | old
    · exact inner
    · exact inners e old

/-- An object over another is merged with it; anything else is as it was. -/
theorem mergeValue_cases (v : Value) (old : Option Value) :
    (∃ upper base, v = .object upper ∧ old = some (.object base) ∧ mergeValue v old = .object (overlay base upper)) ∨
    mergeValue v old = v ∧ ∀ upper base, v = .object upper → old ≠ some (.object base) := by
  by_cases both : ∃ upper base, v = .object upper ∧ old = some (.object base)
  · obtain ⟨upper, base, rfl, rfl⟩ := both
    exact .inl ⟨upper, base, rfl, rfl, rfl⟩
  · have unlike : ∀ upper base, v = .object upper → old ≠ some (.object base) :=
      fun upper base above below => both ⟨upper, base, above, below⟩
    exact .inr ⟨by rw [mergeValue]; exact unlike, unlike⟩

@[simp] theorem mergeValue_none (v : Value) : mergeValue v none = v := by
  rcases mergeValue_cases v none with ⟨_, _, _, wrong, _⟩ | ⟨kept, _⟩
  · cases wrong
  · exact kept

theorem mergeValue_of_plain {v : Value} (plain : v.fields? = none) (old : Option Value) : mergeValue v old = v := by
  cases v with
  | object fields => cases plain
  | _ => rfl

/-! ## What layers have in common -/

/-- A property of values that an object has as long as all its keys are allowed and its fields have it. -/
structure Hereditary (Allowed : String → Prop) (P : Value → Prop) : Prop where
  nil : P (.object [])
  fields {fields : Fields} (whole : P (.object fields)) : ∀ e ∈ fields, Allowed e.1 ∧ P e.2
  put {fields : Fields} {key : String} {v : Value} (whole : P (.object fields)) (allowed : Allowed key) (inner : P v) :
    P (.object (Fields.put key v fields))

namespace Hereditary

variable {Allowed : String → Prop} {P : Value → Prop}

theorem get? (hereditary : Hereditary Allowed P) {fields : Fields} (whole : P (.object fields)) {key : String} {v : Value}
    (found : Fields.get? key fields = some v) : P v :=
  (hereditary.fields whole (key, v) (mem_of_get? found)).2

theorem valueAt? (hereditary : Hereditary Allowed P) {path : List String} {v w : Value} (whole : P v)
    (found : Settings.valueAt? path v = some w) : P w := by
  induction path generalizing v with
  | nil =>
    cases found
    exact whole
  | cons key rest ih =>
    cases v with
    | object fields =>
      obtain ⟨u, here, further⟩ := Option.bind_eq_some_iff.mp found
      exact ih (hereditary.get? whole here) further
    | _ => cases found

mutual
/-- A value over another keeps what both have. -/
theorem mergeValue (hereditary : Hereditary Allowed P) : ∀ (v : Value) {old : Option Value}, P v →
    (∀ w, old = some w → P w) → P (Settings.mergeValue v old)
  | .object upper, old, above, below => by
    rcases mergeValue_cases (.object upper) old with ⟨_, base, same, rfl, merged⟩ | ⟨kept, _⟩
    · cases same
      rw [merged]
      exact merge hereditary upper (hereditary.fields above) (below _ rfl)
    · rwa [kept]
  | .null, _, above, _ | .bool _, _, above, _ | .int _, _, above, _ | .real _, _, above, _ | .text _, _, above, _
  | .list _, _, above, _ => above
termination_by structural v => v
theorem merge (hereditary : Hereditary Allowed P) : ∀ (es : List (String × Value)) {base : Fields},
    (∀ e ∈ es, Allowed e.1 ∧ P e.2) → P (.object base) → P (.object (Settings.merge es base))
  | [], _, _, below => below
  | e :: rest, _, above, below =>
    merge hereditary rest (fun e later => above e (List.mem_cons_of_mem _ later))
      (mergeEntry hereditary e (above e List.mem_cons_self) below)
termination_by structural es => es
theorem mergeEntry (hereditary : Hereditary Allowed P) : ∀ (e : String × Value) {base : Fields},
    Allowed e.1 ∧ P e.2 → P (.object base) → P (.object (Settings.mergeEntry e base))
  | (_, v), _, ⟨allowed, above⟩, below =>
    hereditary.put below allowed (mergeValue hereditary v above fun _ found => hereditary.get? below found)
termination_by structural e => e
end

theorem overlay (hereditary : Hereditary Allowed P) {base upper : Fields} (below : P (.object base))
    (above : P (.object upper)) : P (.object (Settings.overlay base upper)) :=
  hereditary.merge upper (hereditary.fields above) below

theorem putAt (hereditary : Hereditary Allowed P) {path : List String} (allowed : ∀ part ∈ path, Allowed part) {v : Value}
    (inner : P v) {fields : Fields} (whole : P (.object fields)) : P (.object (Settings.putAt path v fields)) := by
  induction path generalizing fields with
  | nil => exact whole
  | cons key rest ih =>
    have here := allowed key List.mem_cons_self
    cases rest with
    | nil => exact hereditary.put whole here (hereditary.mergeValue v inner fun w found => hereditary.get? whole found)
    | cons next more =>
      rw [Settings.putAt]
      · refine hereditary.put whole here (ih (fun part later => allowed part (List.mem_cons_of_mem _ later)) ?_)
        split
        · rename_i inside found
          exact hereditary.get? whole found
        · exact hereditary.nil
      · simp

/-- A property that values have once their dotted keys are nested, given what they had before. -/
structure Expandable (Allowed : String → Prop) (Given P : Value → Prop) : Prop extends Hereditary Allowed P where
  parts (key : String) : ∀ part ∈ keyParts key, Allowed part
  leaf {v : Value} (given : Given v) (plain : v.fields? = none) : P v
  inner {fields : Fields} (given : Given (.object fields)) : ∀ e ∈ fields, Given e.2

end Hereditary

namespace Hereditary.Expandable

variable {Allowed : String → Prop} {Given P : Value → Prop}

mutual
theorem expandValue (expandable : Expandable Allowed Given P) : ∀ v, Given v → P (Settings.expandValue v)
  | .object fields, given => expandInto expandable fields (expandable.inner given) expandable.nil
  | .null, given | .bool _, given | .int _, given | .real _, given | .text _, given | .list _, given =>
    expandable.leaf given rfl
termination_by structural v => v
theorem expandInto (expandable : Expandable Allowed Given P) : ∀ (es : List (String × Value)) {done : Fields},
    (∀ e ∈ es, Given e.2) → P (.object done) → P (.object (Settings.expandInto es done))
  | [], _, _, whole => whole
  | e :: rest, _, given, whole =>
    expandInto expandable rest (fun e later => given e (List.mem_cons_of_mem _ later))
      (expandEntry expandable e (given e List.mem_cons_self) whole)
termination_by structural es => es
theorem expandEntry (expandable : Expandable Allowed Given P) : ∀ (e : String × Value) {done : Fields},
    Given e.2 → P (.object done) → P (.object (Settings.expandEntry e done))
  | (key, v), _, given, whole => expandable.putAt (expandable.parts key) (expandValue expandable v given) whole
termination_by structural e => e
end

theorem expand (expandable : Expandable Allowed Given P) {fields : Fields} (given : ∀ e ∈ fields, Given e.2) :
    P (.object (Settings.expand fields)) := expandInto expandable fields given expandable.nil

/-- The layer of a file has the property. -/
theorem layerOf (expandable : Expandable Allowed Given P) {v : Value} (given : Given v) {fields : Fields}
    (layered : layerOf? v = some fields) : P (.object fields) := by
  obtain ⟨whole, object, same⟩ := Option.map_eq_some_iff.mp layered
  have expanded : P (.object (Settings.expand whole)) := by
    cases v with
    | object fields =>
      cases object
      exact expandable.expand (expandable.inner given)
    | _ => cases object
  split at same
  · rename_i key inner found
    rw [found] at expanded
    split at same
    · subst same
      exact (expandable.fields expanded (key, .object inner) List.mem_cons_self).2
    · subst same
      exact expanded
  · subst same
    exact expanded

end Hereditary.Expandable

/-! ## Expanding makes tidy -/

theorem keyParts_eq_splitOn (key : String) : keyParts key = (key.toList.splitOn '.').map String.ofList := by
  have split : splitDots key.toList = key.toList.splitOn '.' := Text.eq_splitOn rfl (fun _ _ => rfl) _
  rw [keyParts, split]

theorem keyParts_undotted (key : String) : keyParts key ≠ [] ∧ ∀ part ∈ keyParts key, '.' ∉ part.toList := by
  rw [keyParts_eq_splitOn]
  refine ⟨by simp, fun part member => ?_⟩
  obtain ⟨cs, among, rfl⟩ := List.mem_map.mp member
  rw [String.toList_ofList]
  exact Text.not_mem_of_mem_splitOn among

/-- A key without a dot is its own only part. -/
theorem keyParts_of_undotted {key : String} (undotted : '.' ∉ key.toList) : keyParts key = [key] := by
  rw [keyParts_eq_splitOn, List.splitOn_eq_singleton undotted, List.map_singleton, String.ofList_toList]

/-- Whatever values are given, they are tidy once their keys are nested. -/
theorem tidy_expandable : Hereditary.Expandable (fun key => '.' ∉ key.toList) (fun _ => True) Tidy where
  nil := tidy_nil
  fields tidy e member := ⟨tidy.fields.2.1 e member, tidy.fields.2.2 e member⟩
  put tidy undotted inner := tidy.put undotted inner
  parts key := (keyParts_undotted key).2
  leaf _ plain := .leaf plain
  inner _ _ _ := trivial

/-- A tidy layer over a tidy one is tidy. -/
theorem Tidy.overlay {base upper : Fields} (below : Tidy (.object base)) (above : Tidy (.object upper)) :
    Tidy (.object (Settings.overlay base upper)) := tidy_expandable.overlay below above

/-- The layer of a file is tidy. -/
theorem layerOf_tidy {v : Value} {fields : Fields} (given : layerOf? v = some fields) : Tidy (.object fields) :=
  tidy_expandable.layerOf trivial given

/-! ## Expanding what is tidy -/

/-- Fields without a dotted key that comes twice are put one after the other. -/
theorem expandInto_tidy {es done : Fields} (inner : ∀ e ∈ es, expandValue e.2 = e.2)
    (named : ∀ e ∈ es, '.' ∉ e.1.toList) (single : (Fields.keys done ++ Fields.keys es).Nodup) :
    expandInto es done = done ++ es := by
  induction es generalizing done with
  | nil => simp [expandInto]
  | cons e rest ih =>
    obtain ⟨key, v⟩ := e
    have absent : key ∉ Fields.keys done := by
      intro member
      exact (List.nodup_append.mp single).2.2 key member key (by simp [Fields.keys]) rfl
    have added : expandEntry (key, v) done = done ++ [(key, v)] := by
      rw [expandEntry, keyParts_of_undotted (named (key, v) List.mem_cons_self), inner (key, v) List.mem_cons_self, putAt,
        get?_eq_none_iff.mpr absent, mergeValue_none, put_of_not_mem absent]
    rw [expandInto, added, ih]
    · simp
    · exact fun e later => inner e (List.mem_cons_of_mem _ later)
    · exact fun e later => named e (List.mem_cons_of_mem _ later)
    · simpa [Fields.keys] using single

theorem Tidy.expandValue {v : Value} (tidy : Tidy v) : Settings.expandValue v = v := by
  induction tidy with
  | @object fields single named inner ih =>
    rw [Settings.expandValue, expandInto_tidy ih named (by simpa [Fields.keys] using single)]
    rfl
  | @leaf v plain =>
    cases v with
    | object fields => cases plain
    | _ => rfl

theorem Tidy.expand {fields : Fields} (tidy : Tidy (.object fields)) : Settings.expand fields = fields := by
  have whole := tidy.expandValue
  rw [Settings.expandValue, Value.object.injEq] at whole
  exact whole

/-! ## What is found -/

theorem get?_overlay {upper : Fields} (single : upper.keys.Nodup) (key : String) (base : Fields) :
    Fields.get? key (overlay base upper) =
      match Fields.get? key upper with
      | none => Fields.get? key base
      | some v => some (mergeValue v (Fields.get? key base)) := by
  unfold overlay
  induction upper generalizing base with
  | nil => rfl
  | cons e rest ih =>
    obtain ⟨other, v⟩ := e
    simp only [Fields.keys, List.map_cons, List.nodup_cons] at single ih
    rw [merge, ih single.2, mergeEntry, get?_cons, get?_put]
    by_cases here : other = key
    · subst here
      rw [get?_eq_none_iff.mpr single.1, if_pos rfl, if_pos rfl]
    · rw [if_neg here, if_neg here]

theorem valueAt?_nothing {path : List String} (some_path : path ≠ []) : valueAt? path (.object []) = none := by
  cases path with
  | nil => exact absurd rfl some_path
  | cons key rest => rfl

theorem valueAt?_of_leaf {path : List String} (some_path : path ≠ []) {v : Value} (plain : v.fields? = none) :
    valueAt? path v = none := by
  cases path with
  | nil => exact absurd rfl some_path
  | cons key rest =>
    cases v with
    | object fields => cases plain
    | _ => rfl

/-! ## Putting a value at a path -/

/-- The fields of the object under a key; there are none if there is no object. -/
def inside (key : String) (fields : Fields) : Fields :=
  match Fields.get? key fields with
  | some (.object inner) => inner
  | _ => []

theorem inside_of_object {key : String} {fields inner : Fields} (found : Fields.get? key fields = some (.object inner)) :
    inside key fields = inner := by
  rw [inside, found]

theorem inside_of_no_object {key : String} {fields : Fields}
    (unlike : ∀ inner, Fields.get? key fields ≠ some (.object inner)) : inside key fields = [] := by
  unfold inside
  split
  · rename_i inner found
    exact absurd found (unlike inner)
  · rfl

theorem putAt_cons {rest : List String} (some_rest : rest ≠ []) (key : String) (v : Value) (fields : Fields) :
    putAt (key :: rest) v fields = Fields.put key (.object (putAt rest v (inside key fields))) fields := by
  rw [putAt]
  · rfl
  · exact some_rest

/-- What is further down a path is inside of the object under the first key. -/
theorem valueAt?_cons {rest : List String} (some_rest : rest ≠ []) (key : String) (fields : Fields) :
    valueAt? (key :: rest) (.object fields) = valueAt? rest (.object (inside key fields)) := by
  rw [valueAt?, inside]
  split
  · rename_i inner found
    rw [found]
    rfl
  · rename_i unlike
    rw [valueAt?_nothing some_rest]
    cases found : Fields.get? key fields with
    | none => rfl
    | some w =>
      cases w with
      | object inner => exact absurd found (unlike inner)
      | _ => exact valueAt?_of_leaf some_rest rfl

/-- A value put at a path is found there, merged with what has been there if both are objects. -/
theorem valueAt?_putAt_self {path : List String} (some_path : path ≠ []) (v : Value) (fields : Fields) :
    valueAt? path (.object (putAt path v fields)) = some (mergeValue v (valueAt? path (.object fields))) := by
  induction path generalizing fields with
  | nil => exact absurd rfl some_path
  | cons key rest ih =>
    cases rest with
    | nil =>
      rw [putAt, valueAt?, valueAt?, get?_put, if_pos rfl]
      cases Fields.get? key fields <;> rfl
    | cons next more =>
      have deeper : next :: more ≠ [] := List.cons_ne_nil next more
      rw [putAt_cons deeper, valueAt?_cons deeper, valueAt?_cons deeper, inside_of_object (Fields.get?_put_self ..)]
      exact ih deeper _

/-- A value put at a path that is neither on the way to another path nor beyond it changes nothing of
what is found there. -/
theorem valueAt?_putAt {path other : List String} (apart : ¬ other <+: path) (beyond : ¬ path <+: other) (v : Value)
    (fields : Fields) : valueAt? path (.object (putAt other v fields)) = valueAt? path (.object fields) := by
  induction other generalizing path fields with
  | nil => exact absurd List.nil_prefix apart
  | cons key rest ih =>
    cases path with
    | nil => exact absurd List.nil_prefix beyond
    | cons first more =>
      by_cases here : key = first
      · subst here
        have apart : ¬ rest <+: more := fun start => apart ((List.prefix_cons_inj key).mpr start)
        have beyond : ¬ more <+: rest := fun start => beyond ((List.prefix_cons_inj key).mpr start)
        have some_rest : rest ≠ [] := by
          rintro rfl
          exact apart List.nil_prefix
        have some_more : more ≠ [] := by
          rintro rfl
          exact beyond List.nil_prefix
        rw [putAt_cons some_rest, valueAt?_cons some_more, valueAt?_cons some_more,
          inside_of_object (Fields.get?_put_self ..)]
        exact ih apart beyond _
      · have same (w : Value) : Fields.get? first (Fields.put key w fields) = Fields.get? first fields := by
          rw [get?_put, if_neg here]
        rw [valueAt?, valueAt?]
        cases rest with
        | nil => rw [putAt, same]
        | cons next later => rw [putAt_cons (by simp), same]

end Diagnosis.Settings
