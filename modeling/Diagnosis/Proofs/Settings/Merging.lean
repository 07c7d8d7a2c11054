import Diagnosis.Proofs.Json.Readable
import Diagnosis.Proofs.Settings.Layer

/-!
# Values at paths

What is found at a path when one layer lies over another is told by where the walk along the path ends in
the upper one: it is what the upper one has there, or else what the lower one has, as long as the upper
one puts nothing but objects on the way. The keys of the lower layer come first, then those that are new. A
layer that has been put over another is not changed by being put over it once more.
-/

namespace Diagnosis.Settings

open Diagnosis.Json

variable {base upper : Fields} {v : Value} {key : String}

/-! ## Keys that come once -/

/-- No key of an object, and of the objects in it, comes twice. Lists are not looked into. -/
inductive Single : Value → Prop where
  | object {fields : Fields} (single : fields.keys.Nodup) (inner : ∀ e ∈ fields, Single e.2) : Single (.object fields)
  | leaf {v : Value} (plain : v.fields? = none) : Single v

theorem Single.fields {fields : Fields} (single : Single (.object fields)) :
    fields.keys.Nodup ∧ ∀ e ∈ fields, Single e.2 := by
  cases single with
  | object single inner => exact ⟨single, inner⟩
  | leaf plain => cases plain

/-- Values whose keys come once stay so when one is put over the other. -/
theorem single_hereditary : Hereditary (fun _ => True) Single where
  nil := .object .nil (by simp)
  fields single e member := ⟨trivial, single.fields.2 e member⟩
  put single _ inner := by
    refine .object (nodup_keys_put single.fields.1 ..) fun e member => ?_
    rcases mem_put member with rfl | old
    · exact inner
    · exact single.fields.2 e old

theorem Tidy.single {v : Value} (tidy : Tidy v) : Single v := by
  induction tidy with
  | object single _ _ ih => exact .object single ih
  | leaf plain => exact .leaf plain

/-! ## Where a walk ends -/

/-- Where the walk along a path ends in a value: at a plain value or at an object that the path leads to, at a
plain value before the end of the path, or where an object does not have the next key. -/
inductive Halt where
  | plain (v : Value)
  | object (fields : Fields)
  | blocked
  | absent

/-- The walk along a path. -/
def walk : List String → Value → Halt
  | [], .object fields => .object fields
  | [], v => .plain v
  | key :: rest, .object fields =>
    match Fields.get? key fields with
    | some v => walk rest v
    | none => .absent
  | _ :: _, _ => .blocked

/-- What a path leads to is what the walk along it finds at its end. -/
theorem valueAt?_eq_walk (path : List String) (v : Value) :
    valueAt? path v =
      match walk path v with
      | .plain w => some w
      | .object fields => some (.object fields)
      | .blocked => none
      | .absent => none := by
  induction path generalizing v with
  | nil => cases v <;> rfl
  | cons key rest ih =>
    cases v with
    | object fields =>
      rw [valueAt?, walk]
      cases Fields.get? key fields with
      | none => rfl
      | some w => exact ih w
    | _ => rfl

theorem mergeValue_object (high : Fields) (old : Option Value) :
    mergeValue (.object high) old =
      match old with
      | some (.object low) => .object (overlay low high)
      | _ => .object high := by
  cases old with
  | none => rfl
  | some w => cases w <;> rfl

/-- What is found at a path of a value over another. -/
theorem valueAt?_mergeValue (single : Single v) (path : List String) (old : Option Value) :
    valueAt? path (mergeValue v old) =
      match walk path v with
      | .plain w => some w
      | .object fields => some (mergeValue (.object fields) (old.bind (valueAt? path)))
      | .blocked => none
      | .absent => old.bind (valueAt? path) := by
  induction path generalizing v old with
  | nil =>
    have here : old.bind (valueAt? []) = old := by cases old <;> rfl
    cases v with
    | object fields =>
      rw [here]
      rfl
    | _ => rfl
  | cons key rest ih =>
    rcases mergeValue_cases v old with ⟨upper, base, rfl, rfl, merged⟩ | ⟨kept, unlike⟩
    · rw [merged, valueAt?, get?_overlay single.fields.1, walk, Option.bind_some]
      cases above : Fields.get? key upper with
      | none => rfl
      | some w => exact ih (single_hereditary.get? single above) _
    · rw [kept, valueAt?_eq_walk]
      cases v with
      | object upper =>
        -- there is no object below, and so nothing at the path
        have nothing : old.bind (valueAt? (key :: rest)) = none := by
          cases old with
          | none => rfl
          | some w =>
            cases w with
            | object base => exact absurd rfl (unlike upper base rfl)
            | _ => rfl
        simp only [nothing, mergeValue_none]
      | _ => rfl

theorem plain_of_walk {path : List String} {w : Value} (found : walk path v = .plain w) : w.fields? = none := by
  induction path generalizing v with
  | nil =>
    cases v with
    | object fields => cases found
    | _ =>
      cases found
      rfl
  | cons key rest ih =>
    cases v with
    | object fields =>
      rw [walk] at found
      cases here : Fields.get? key fields with
      | none =>
        rw [here] at found
        cases found
      | some u =>
        rw [here] at found
        exact ih found
    | _ => cases found

theorem walk_of_object {path : List String} {high : Fields} (found : valueAt? path v = some (.object high)) :
    walk path v = .object high := by
  rw [valueAt?_eq_walk] at found
  cases halt : walk path v with
  | plain w =>
    rw [halt] at found
    cases found
    cases plain_of_walk halt
  | object fields =>
    rw [halt] at found
    cases found
    rfl
  | _ =>
    rw [halt] at found
    cases found

/-- Where both layers have objects, one over the other has the one over the other. -/
theorem valueAt?_overlay_objects (single : Single (.object upper)) {path : List String} {low high : Fields}
    (below : valueAt? path (.object base) = some (.object low))
    (above : valueAt? path (.object upper) = some (.object high)) :
    valueAt? path (.object (overlay base upper)) = some (.object (overlay low high)) := by
  refine (valueAt?_mergeValue single path (some (.object base))).trans ?_
  rw [walk_of_object above, Option.bind_some, below]
  rfl

/-! ## Ways that are open -/

/-- Nothing but objects stands on the way to a path. -/
def OpenTo : List String → Fields → Prop
  | key :: next :: rest, fields =>
    ∀ v, Fields.get? key fields = some v → ∃ inner, v = .object inner ∧ OpenTo (next :: rest) inner
  | _, _ => True

theorem OpenTo.not_blocked {path : List String} {fields : Fields} (opens : OpenTo path fields) :
    walk path (.object fields) ≠ .blocked := by
  induction path generalizing fields with
  | nil => exact Halt.noConfusion
  | cons key rest ih =>
    rw [walk]
    cases found : Fields.get? key fields with
    | none => exact Halt.noConfusion
    | some v =>
      cases rest with
      | nil => cases v <;> exact Halt.noConfusion
      | cons next more =>
        obtain ⟨inner, rfl, onward⟩ := opens v found
        exact ih onward

/-- Where the upper layer leaves the way to a path open, what it has there is over what the lower one has. -/
theorem valueAt?_overlay {path : List String} (tidy : Tidy (.object upper)) (opens : OpenTo path upper) :
    valueAt? path (.object (overlay base upper)) =
      match valueAt? path (.object upper) with
      | none => valueAt? path (.object base)
      | some v => some (mergeValue v (valueAt? path (.object base))) := by
  refine (valueAt?_mergeValue tidy.single path (some (.object base))).trans ?_
  rw [valueAt?_eq_walk path (.object upper)]
  cases halt : walk path (.object upper) with
  | plain w => exact congrArg some (mergeValue_of_plain (plain_of_walk halt) _).symm
  | object high => rfl
  | blocked => exact absurd halt opens.not_blocked
  | absent => rfl

theorem OpenTo.overlay {path : List String} {base upper : Fields} (below : OpenTo path base) (above : OpenTo path upper)
    (tidy : Tidy (.object upper)) : OpenTo path (Settings.overlay base upper) := by
  induction path generalizing base upper with
  | nil => trivial
  | cons key rest ih =>
    cases rest with
    | nil => trivial
    | cons next more =>
      intro v found
      rw [get?_overlay tidy.fields.1] at found
      cases high : Fields.get? key upper with
      | none =>
        rw [high] at found
        exact below v found
      | some w =>
        obtain ⟨inner, rfl, onward⟩ := above w high
        rw [high, Option.some.injEq] at found
        rcases mergeValue_cases (.object inner) (Fields.get? key base) with
          ⟨_, lower, same, low, merged⟩ | ⟨kept, _⟩
        · cases same
          obtain ⟨_, same, further⟩ := below _ low
          cases same
          exact ⟨_, found.symm.trans merged, ih further onward (tidy.get? high)⟩
        · exact ⟨inner, found.symm.trans kept, onward⟩

/-- The way to a path is open if every value on it is an object. -/
theorem openTo_of_objects {path : List String} {fields : Fields}
    (objects : ∀ front, front <+: path → front ≠ [] → front ≠ path → ∀ v, valueAt? front (.object fields) = some v →
      ∃ inner, v = .object inner) : OpenTo path fields := by
  induction path generalizing fields with
  | nil => trivial
  | cons key rest ih =>
    cases rest with
    | nil => trivial
    | cons next more =>
      intro v found
      obtain ⟨inner, rfl⟩ := objects [key] (List.prefix_append [key] (next :: more)) (by simp) (by simp) v
        (by rw [valueAt?, found]; rfl)
      refine ⟨inner, rfl, ih fun front start some_front short w there => ?_⟩
      refine objects (key :: front) ((List.prefix_cons_inj key).mpr start) (by simp) (by simpa using short) w ?_
      rw [valueAt?, found]
      exact there

/-! ## Keys in order -/

/-- The keys of the lower layer come first, then those that only the upper one has. -/
theorem keys_overlay (single : upper.keys.Nodup) (base : Fields) :
    (overlay base upper).keys = base.keys ++ upper.keys.filter (· ∉ base.keys) := by
  unfold overlay
  induction upper generalizing base with
  | nil => simp [merge, Fields.keys]
  | cons e rest ih =>
    obtain ⟨key, v⟩ := e
    obtain ⟨absent, single⟩ := List.nodup_cons.mp single
    change (merge rest (Fields.put key _ base)).keys = base.keys ++ (key :: Fields.keys rest).filter _
    rw [ih single, keys_put]
    by_cases there : key ∈ base.keys
    · rw [if_pos there, List.filter_cons_of_neg (by simpa using there)]
    · have others :
          (Fields.keys rest).filter (· ∉ base.keys ++ [key]) = (Fields.keys rest).filter (· ∉ base.keys) := by
        refine List.filter_congr fun other member => ?_
        have unlike : other ≠ key := by
          rintro rfl
          exact absent member
        simp [unlike]
      rw [if_neg there, others, List.filter_cons_of_pos (by simpa using there), List.append_assoc]
      rfl

/-- Layers with the same keys in the same order, and the same under each of them, are the same. -/
theorem eq_of_get? {a b : Fields} (keys : a.keys = b.keys) (single : a.keys.Nodup)
    (same : ∀ key, Fields.get? key a = Fields.get? key b) : a = b := by
  induction a generalizing b with
  | nil => exact (List.map_eq_nil_iff.mp keys.symm).symm
  | cons e rest ih =>
    obtain ⟨key, v⟩ := e
    cases b with
    | nil => cases keys
    | cons e' rest' =>
      obtain ⟨key', v'⟩ := e'
      obtain ⟨rfl, tails⟩ := List.cons.inj keys
      obtain ⟨absent, single⟩ := List.nodup_cons.mp single
      have first := same key
      rw [get?_cons, get?_cons, if_pos rfl, if_pos rfl] at first
      cases first
      rw [ih tails single fun other => ?_]
      have here := same other
      rw [get?_cons, get?_cons] at here
      by_cases unlike : key = other
      · subst unlike
        have absentToo : key ∉ Fields.keys rest' := by rwa [Fields.keys, ← tails]
        rw [get?_eq_none_iff.mpr absent, get?_eq_none_iff.mpr absentToo]
      · rwa [if_neg unlike, if_neg unlike] at here

/-! ## Putting a layer over another twice -/

/-- A value that has been put over another is not changed by being put over it again. -/
theorem mergeValue_mergeValue {w : Value} (below : Single w) (above : Single v) :
    mergeValue (mergeValue v (some w)) (some w) = mergeValue v (some w) := by
  induction below generalizing v with
  | @leaf w plain =>
    have kept (v : Value) : mergeValue v (some w) = v := by
      rcases mergeValue_cases v (some w) with ⟨_, base, _, same, _⟩ | ⟨kept, _⟩
      · cases same
        cases plain
      · exact kept
    rw [kept, kept]
  | @object base single inner ih =>
    cases v with
    | object upper =>
      change Value.object (overlay base (overlay base upper)) = .object (overlay base upper)
      have merged : (overlay base upper).keys.Nodup :=
        (single_hereditary.overlay (.object single inner) above).fields.1
      have keys : (overlay base (overlay base upper)).keys = (overlay base upper).keys := by
        rw [keys_overlay merged, keys_overlay above.fields.1, List.filter_append, List.filter_filter]
        simp
      congr 1
      refine eq_of_get? keys (keys ▸ merged) fun key => ?_
      rw [get?_overlay merged, get?_overlay above.fields.1]
      cases low : Fields.get? key base with
      | none => cases Fields.get? key upper <;> simp
      | some w =>
        have again {v : Value} (above : Single v) :
            mergeValue (mergeValue v (some w)) (some w) = mergeValue v (some w) :=
          ih (key, w) (mem_of_get? low) above
        cases high : Fields.get? key upper with
        | some u => exact congrArg some (again (single_hereditary.get? above high))
        | none =>
          -- what only the lower layer has is put over itself, as over nothing put over it
          refine congrArg some ?_
          cases w with
          | object fields => exact again single_hereditary.nil
          | _ => rfl
    | _ => rfl

theorem overlay_overlay (below : Single (.object base)) (above : Single (.object upper)) :
    overlay base (overlay base upper) = overlay base upper :=
  Value.object.inj (mergeValue_mergeValue below above)

/-- One layer over another. What is at a path is told by the walk along it in the upper layer: a plain value
at its end is there; past a plain value there is nothing; where a key is missing, there is what the lower layer
has; and an object at its end lies over the object that the lower layer has there, or is there alone if the
lower layer has none. Wherever both have an object, the keys of the lower one come first and in their order, then
the new ones in theirs. And putting what comes out over the same lower layer once more changes nothing. -/
theorem overlay_law (below : Single (.object base)) (above : Single (.object upper)) :
    (∀ path, valueAt? path (.object (overlay base upper)) =
      match walk path (.object upper) with
      | .plain v => some v
      | .blocked => none
      | .absent => valueAt? path (.object base)
      | .object high =>
        match valueAt? path (.object base) with
        | some (.object low) => some (.object (overlay low high))
        | _ => some (.object high)) ∧
    (∀ (path : List String) (low high : Fields), valueAt? path (.object base) = some (.object low) →
      valueAt? path (.object upper) = some (.object high) →
      ∃ merged : Fields, valueAt? path (.object (overlay base upper)) = some (.object merged) ∧
        merged.keys = low.keys ++ high.keys.filter (· ∉ low.keys)) ∧
    overlay base (overlay base upper) = overlay base upper := by
  refine ⟨fun path => ?_, fun path low high lower higher => ?_, overlay_overlay below above⟩
  · refine (valueAt?_mergeValue above path (some (.object base))).trans ?_
    cases walk path (.object upper) with
    | object high =>
      dsimp only
      rw [Option.bind_some, mergeValue_object]
      split <;> rfl
    | _ => rfl
  · have single := (single_hereditary.valueAt? above higher).fields.1
    exact ⟨overlay low high, valueAt?_overlay_objects above lower higher, keys_overlay single low⟩

/-- A number in place of a group, a group that is merged, and a new key, over what is built in. -/
theorem overlay_law_clash :
    let upper : Fields := [("parse", .int 5), ("includePath", .object [("extra", .null)]), ("", .object [])]
    Single (.object builtIn) ∧ Single (.object upper) ∧
      valueAt? ["parse"] (.object (overlay builtIn upper)) = some (.int 5) ∧
      valueAt? ["parse", "index"] (.object (overlay builtIn upper)) = none ∧
      valueAt? ["includePath", "absolute"] (.object (overlay builtIn upper)) = some (.list []) ∧
      (overlay builtIn upper).keys = builtIn.keys ++ [""] ∧
      overlay builtIn (overlay builtIn upper) = overlay builtIn upper := by
  intro upper
  have below : Single (.object builtIn) := builtIn_tidy.single
  have above : Single (.object upper) := by
    refine .object (by decide) ?_
    simp only [upper, List.forall_mem_cons]
    exact ⟨.leaf rfl, .object (by decide) (by simpa using .leaf rfl), single_hereditary.nil, by simp⟩
  obtain ⟨found, keys, again⟩ := overlay_law below above
  obtain ⟨merged, same, ordered⟩ := keys [] builtIn upper rfl rfl
  cases same
  exact ⟨below, above, (found _).trans rfl, (found _).trans rfl, (found _).trans rfl,
    ordered.trans (by decide +kernel), again⟩

end Diagnosis.Settings
