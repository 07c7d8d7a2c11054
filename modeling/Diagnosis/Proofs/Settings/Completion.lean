import Diagnosis.Proofs.Settings.Stack

/-!
# Layers over what is built in

Two layers are alike if they have the same at every path, however their keys are ordered. A layer
that is put over another is like itself exactly if, wherever both have an object, it has all the
keys that the lower one has; the built-in layer, with nothing but objects put where settings are
grouped, keeps all its keys.
-/

namespace Diagnosis.Settings

open Diagnosis.Json

variable {base lower upper a b : Fields} {path : List String} {key : String}

/-- The same is found at every path: the same plain values, and objects where there are objects. -/
def Alike (v w : Option Value) : Prop := ∀ path, Agree (v.bind (valueAt? path)) (w.bind (valueAt? path))

theorem Alike.refl (v : Option Value) : Alike v v := fun _ => .inl rfl

theorem valueAt?_append (front rest : List String) (v : Value) :
    valueAt? (front ++ rest) v = (valueAt? front v).bind (valueAt? rest) := by
  induction front generalizing v with
  | nil => rfl
  | cons key more ih =>
    cases v with
    | object fields =>
      rw [List.cons_append, valueAt?, valueAt?, Option.bind_assoc]
      exact congrArg _ (funext ih)
    | _ => rfl

theorem valueAt?_singleton (key : String) (fields : Fields) :
    valueAt? [key] (.object fields) = Fields.get? key fields := by
  rw [valueAt?]
  cases Fields.get? key fields <;> rfl

theorem mem_keys_iff : key ∈ Fields.keys a ↔ Fields.get? key a ≠ none := by
  rw [ne_eq, get?_eq_none_iff, not_not]

/-- Layers are alike if and only if every dotted key has alike values in them. -/
theorem alike_iff_lookup? (tidy : Tidy (.object a)) (tidyToo : Tidy (.object b)) :
    Alike (some (.object a)) (some (.object b)) ↔ ∀ key, Alike (lookup? a key) (lookup? b key) := by
  constructor
  · intro alike key path
    rw [lookup?, lookup?, ← valueAt?_append, ← valueAt?_append]
    exact alike (keyParts key ++ path)
  · intro alike path
    cases path with
    | nil => exact .inr ⟨a, b, rfl, rfl⟩
    | cons key rest =>
      change Agree ((Fields.get? key a).bind (valueAt? rest)) ((Fields.get? key b).bind (valueAt? rest))
      by_cases undotted : '.' ∉ key.toList
      · have found := alike key rest
        rw [lookup?, lookup?, keyParts_of_undotted undotted, valueAt?_singleton, valueAt?_singleton] at found
        exact found
      · have absent {fields : Fields} (tidy : Tidy (.object fields)) : Fields.get? key fields = none := by
          by_contra there
          obtain ⟨v, found⟩ := Option.ne_none_iff_exists'.mp there
          exact undotted (tidy.fields.2.1 (key, v) (mem_of_get? found))
        rw [absent tidy, absent tidyToo]
        exact .inl rfl

/-- Wherever both layers have an object, the upper one has all the keys of the lower one. -/
def Complete (base upper : Fields) : Prop :=
  ∀ (path : List String) (low high : Fields), valueAt? path (.object base) = some (.object low) →
    valueAt? path (.object upper) = some (.object high) → ∀ key ∈ low.keys, key ∈ high.keys

/-- Only an object has an object in it. -/
theorem object_of_valueAt? {v : Value} {inner : Fields} (found : valueAt? path v = some (.object inner)) :
    ∃ fields, v = .object fields := by
  cases path with
  | nil => exact ⟨inner, Option.some.inj found⟩
  | cons key rest =>
    cases v with
    | object fields => exact ⟨fields, rfl⟩
    | _ => cases found

/-- An object below the first key of a path is in an object under the key. -/
theorem get?_of_valueAt?_cons {rest : List String} {inner : Fields}
    (found : valueAt? (key :: rest) (.object a) = some (.object inner)) :
    ∃ fields, Fields.get? key a = some (.object fields) ∧ valueAt? rest (.object fields) = some (.object inner) := by
  obtain ⟨v, here, further⟩ := Option.bind_eq_some_iff.mp found
  obtain ⟨fields, rfl⟩ := object_of_valueAt? further
  exact ⟨fields, here, further⟩

theorem mem_keys_overlay (tidy : Tidy (.object upper)) (member : key ∈ Fields.keys base) :
    key ∈ (overlay base upper).keys := by
  rw [keys_overlay tidy.fields.1]
  exact List.mem_append_left _ member

/-- A layer over another is like itself if and only if it misses nothing of what the other has. -/
theorem alike_overlay_iff (tidy : Tidy (.object upper)) :
    Alike (some (.object upper)) (some (.object (overlay base upper))) ↔ Complete base upper := by
  constructor
  · intro alike path low high below above key member
    have same := alike (path ++ [key])
    simp only [Option.bind_some] at same
    rw [valueAt?_append, valueAt?_append, valueAt?_overlay_objects tidy.single below above, above, Option.bind_some, Option.bind_some,
      valueAt?_singleton, valueAt?_singleton] at same
    have single := (tidy_expandable.valueAt? tidy above).fields.1
    rw [mem_keys_iff] at member ⊢
    intro absent
    have nothing := same.none_iff.mp absent
    rw [get?_overlay single, absent] at nothing
    exact member nothing
  · intro complete path
    simp only [Option.bind_some]
    induction path generalizing base upper with
    | nil => exact .inr ⟨_, _, rfl, rfl⟩
    | cons key rest ih =>
      rw [valueAt?, valueAt?, get?_overlay tidy.fields.1]
      cases above : Fields.get? key upper with
      | none =>
        have absent : Fields.get? key base = none := by
          by_contra there
          exact mem_keys_iff.mp (complete [] base upper rfl rfl key (mem_keys_iff.mpr there)) above
        rw [absent]
        exact .inl rfl
      | some v =>
        rcases mergeValue_cases v (Fields.get? key base) with ⟨high, low, rfl, below, merged⟩ | ⟨kept, _⟩
        · dsimp only
          rw [merged]
          refine ih (tidy.get? above) fun path low' high' below' above' => complete (key :: path) low' high' ?_ ?_
          · rw [valueAt?, below]
            exact below'
          · rw [valueAt?, above]
            exact above'
        · dsimp only
          rw [kept]
          exact .inl rfl

/-! ## Layers that keep all that is built in -/

/-- Wherever the lower layer has an object, the upper one has one with all its keys. -/
def Full (base upper : Fields) : Prop :=
  ∀ (path : List String) (low : Fields), valueAt? path (.object base) = some (.object low) →
    ∃ high : Fields, valueAt? path (.object upper) = some (.object high) ∧ ∀ key ∈ low.keys, key ∈ high.keys

theorem Full.refl (base : Fields) : Full base base := fun _ low found => ⟨low, found, fun _ member => member⟩

theorem Full.complete (full : Full base upper) : Complete base upper := by
  intro path low high below above
  obtain ⟨other, same, keys⟩ := full path low below
  cases above.symm.trans same
  exact keys

theorem Full.alike (full : Full base a) (alike : Alike (some (.object a)) (some (.object b))) : Full base b := by
  intro path low below
  obtain ⟨high, above, keys⟩ := full path low below
  have same := alike path
  rw [Option.bind_some, Option.bind_some, above] at same
  obtain ⟨other, found⟩ : ∃ other : Fields, valueAt? path (.object b) = some (.object other) := by
    rcases same with same | ⟨_, other, _, found⟩
    · exact ⟨high, same.symm⟩
    · exact ⟨other, found⟩
  refine ⟨other, found, fun key member => ?_⟩
  have agree := alike (path ++ [key])
  rw [Option.bind_some, Option.bind_some, valueAt?_append, valueAt?_append, above, found, Option.bind_some, Option.bind_some,
    valueAt?_singleton, valueAt?_singleton] at agree
  have there := mem_keys_iff.mp (keys key member)
  rw [mem_keys_iff]
  exact fun absent => there (agree.none_iff.mpr absent)

/-- Putting more over a layer takes no keys from it, as long as nothing but objects is put where the lower
layer has one. -/
theorem Full.overlay (full : Full base lower) (tidy : Tidy (.object upper))
    (objects : ∀ (path : List String) (low : Fields) (v : Value), valueAt? path (.object base) = some (.object low) →
      valueAt? path (.object upper) = some v → ∃ inner, v = .object inner) :
    Full base (Settings.overlay lower upper) := by
  intro path low below
  obtain ⟨high, found, keys⟩ := full path low below
  cases path with
  | nil =>
    cases below
    cases found
    exact ⟨_, rfl, fun key member => mem_keys_overlay tidy (keys key member)⟩
  | cons key rest =>
    have opens : OpenTo (key :: rest) upper := by
      refine openTo_of_objects fun front start _ _ v there => ?_
      obtain ⟨more, whole⟩ := start
      rw [← whole, valueAt?_append] at below
      obtain ⟨w, way, further⟩ := Option.bind_eq_some_iff.mp below
      obtain ⟨fields, rfl⟩ := object_of_valueAt? further
      exact objects front fields v way there
    rw [valueAt?_overlay tidy opens]
    cases above : valueAt? (key :: rest) (.object upper) with
    | none => exact ⟨high, found, keys⟩
    | some v =>
      obtain ⟨inner, rfl⟩ := objects (key :: rest) low v below above
      rw [found]
      exact ⟨_, rfl, fun key member => mem_keys_overlay (tidy_expandable.valueAt? tidy above) (keys key member)⟩

/-- The built-in layer has objects where settings are grouped, and nowhere else. -/
theorem group_of_object {inner : Fields} (found : valueAt? path (.object builtIn) = some (.object inner)) :
    path = [] ∨ ∃ g ∈ groups, keyParts g = path := by
  have down {key : String} {rest : List String} {fields : Fields}
      (found : valueAt? (key :: rest) (.object fields) = some (.object inner)) :
      ∃ further : Fields, (key, .object further) ∈ fields ∧ valueAt? rest (.object further) = some (.object inner) := by
    obtain ⟨further, here, led⟩ := get?_of_valueAt?_cons found
    exact ⟨further, mem_of_get? here, led⟩
  cases path with
  | nil => exact .inl rfl
  | cons key rest =>
    right
    obtain ⟨further, member, led⟩ := down found
    simp only [builtIn, List.mem_cons, Prod.mk.injEq, reduceCtorEq, and_false, false_or, List.not_mem_nil, or_false] at member
    rcases member with ⟨rfl, same⟩ | ⟨rfl, same⟩
    · cases same
      cases rest with
      | nil => exact ⟨"includePath", by decide, by decide⟩
      | cons next more =>
        obtain ⟨_, member, _⟩ := down led
        simp at member
    · cases same
      cases rest with
      | nil => exact ⟨"parse", by decide, by decide⟩
      | cons next more =>
        obtain ⟨last, member, led⟩ := down led
        simp only [List.mem_cons, Prod.mk.injEq, reduceCtorEq, and_false, false_or, List.not_mem_nil, or_false] at member
        have ends (group : String) (known : group ∈ groups) (same : keyParts group = ["parse", next])
            (plain : ∀ e ∈ last, e.2.fields? = none) : ∃ g ∈ groups, keyParts g = "parse" :: next :: more := by
          cases more with
          | nil => exact ⟨group, known, same⟩
          | cons beyond others =>
            obtain ⟨deeper, member, _⟩ := down led
            cases plain _ member
        rcases member with ⟨rfl, same⟩ | ⟨rfl, same⟩
        · cases same
          exact ends "parse.index" (by decide) (by decide) (by simp [Value.fields?])
        · cases same
          exact ends "parse.severityIdentifier" (by decide) (by decide) (by simp [Value.fields?])

/-- A layer with nothing but objects where settings are grouped, put over one that keeps all that is built in. -/
theorem Full.overlay_grouped (full : Full builtIn lower) (tidy : Tidy (.object upper)) (grouped : Grouped upper) :
    Full builtIn (Settings.overlay lower upper) := by
  refine full.overlay tidy fun path low v below above => ?_
  rcases group_of_object below with rfl | ⟨g, member, rfl⟩
  · cases above
    exact ⟨upper, rfl⟩
  · have object := grouped g member
    rw [lookup?, above, Option.all_some] at object
    cases v with
    | object inner => exact ⟨inner, rfl⟩
    | _ => cases object

end Diagnosis.Settings
