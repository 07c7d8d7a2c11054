/-!
# Values under keys

Values under strings, in the order in which the strings first came. A value
that comes again under a string takes the place of the old one.
-/

namespace Diagnosis

/-- Values under strings. -/
abbrev Keyed (α : Type) := List (String × α)

namespace Keyed

variable {α : Type}

/-- The value under a key. -/
def get? (key : String) : Keyed α → Option α
  | [] => none
  | (k, v) :: rest => if k = key then some v else get? key rest

/-- With a value under a key, where the key stands or else at the end. -/
def put (key : String) (value : α) : Keyed α → Keyed α
  | [] => [(key, value)]
  | (k, v) :: rest => if k = key then (k, value) :: rest else (k, v) :: put key value rest

/-- Without the value under a key. -/
def erase (key : String) (m : Keyed α) : Keyed α := m.filter (·.1 != key)

/-- The keys in order. -/
def keys (m : Keyed α) : List String := m.map Prod.fst

@[simp] theorem get?_put_self (key : String) (value : α) (m : Keyed α) :
    get? key (put key value m) = some value := by
  induction m with
  | nil => simp [put, get?]
  | cons e rest ih =>
    obtain ⟨k, v⟩ := e
    by_cases h : k = key <;> simp [put, get?, h, ih]

theorem get?_put_of_ne {key other : String} (h : other ≠ key) (value : α) (m : Keyed α) :
    get? other (put key value m) = get? other m := by
  induction m with
  | nil => simp [put, get?, Ne.symm h]
  | cons e rest ih =>
    obtain ⟨k, v⟩ := e
    by_cases hk : k = key
    · subst hk; simp [put, get?, Ne.symm h]
    · simp only [put, if_neg hk, get?, ih]

@[simp] theorem get?_erase_self (key : String) (m : Keyed α) : get? key (erase key m) = none := by
  induction m with
  | nil => rfl
  | cons e rest ih =>
    obtain ⟨k, v⟩ := e
    simp only [erase] at ih ⊢
    by_cases h : k = key <;> simp [h, ih, get?]

theorem get?_erase_of_ne {key other : String} (h : other ≠ key) (m : Keyed α) :
    get? other (erase key m) = get? other m := by
  induction m with
  | nil => rfl
  | cons e rest ih =>
    obtain ⟨k, v⟩ := e
    simp only [erase] at ih ⊢
    by_cases hk : k = key
    · simp [hk, ih, get?, Ne.symm h]
    · simp [hk, ih, get?]

theorem get?_of_get?_erase {key other : String} {value : α} {m : Keyed α}
    (found : get? other (erase key m) = some value) : get? other m = some value := by
  by_cases h : other = key
  · subst h; simp at found
  · rwa [get?_erase_of_ne h] at found

theorem mem_of_get? {key : String} {value : α} {m : Keyed α} (found : get? key m = some value) :
    (key, value) ∈ m := by
  induction m with
  | nil => simp [get?] at found
  | cons e rest ih =>
    obtain ⟨k, v⟩ := e
    by_cases h : k = key
    · simp only [get?, h, ↓reduceIte, Option.some.injEq] at found
      simp [h, found]
    · simp only [get?, h, ↓reduceIte] at found
      exact List.mem_cons_of_mem _ (ih found)

theorem get?_eq_none_iff {key : String} {m : Keyed α} : get? key m = none ↔ key ∉ keys m := by
  induction m with
  | nil => simp [get?, keys]
  | cons e rest ih =>
    obtain ⟨k, v⟩ := e
    simp only [keys] at ih
    by_cases h : k = key
    · simp [get?, keys, h]
    · simp [get?, keys, h, ih, Ne.symm h]

theorem erase_of_get?_eq_none {key : String} {m : Keyed α} (absent : get? key m = none) : erase key m = m := by
  have free := get?_eq_none_iff.mp absent
  simp only [erase, List.filter_eq_self, bne_iff_ne, ne_eq]
  intro e member same
  exact free (List.mem_map.mpr ⟨e, member, same⟩)

theorem mem_put {key : String} {value : α} {m : Keyed α} {e : String × α} (member : e ∈ put key value m) :
    e = (key, value) ∨ e ∈ m := by
  induction m with
  | nil => exact .inl (List.mem_singleton.mp member)
  | cons first rest ih =>
    obtain ⟨k, v⟩ := first
    by_cases h : k = key
    · simp only [put, h, ↓reduceIte, List.mem_cons] at member
      exact member.imp_right (List.mem_cons_of_mem _)
    · simp only [put, h, ↓reduceIte, List.mem_cons] at member
      rcases member with same | later
      · exact .inr (by simp [same])
      · exact (ih later).imp_right (List.mem_cons_of_mem _)

theorem keys_put (key : String) (value : α) (m : Keyed α) :
    keys (put key value m) = if key ∈ keys m then keys m else keys m ++ [key] := by
  induction m with
  | nil => rfl
  | cons e rest ih =>
    obtain ⟨k, v⟩ := e
    simp only [keys] at ih ⊢
    by_cases h : k = key
    · simp [put, h]
    · by_cases later : key ∈ rest.map Prod.fst
      · simp [put, h, ih, later]
      · simp [put, h, ih, later, Ne.symm h]

theorem mem_keys_iff {key : String} {m : Keyed α} : key ∈ keys m ↔ ∃ value, get? key m = some value := by
  rw [← Option.isSome_iff_exists, ← Option.ne_none_iff_isSome, ne_eq, get?_eq_none_iff,
    Classical.not_not]

theorem get?_of_mem {key : String} {value : α} {m : Keyed α} (single : (keys m).Nodup) (member : (key, value) ∈ m) :
    get? key m = some value := by
  induction m with
  | nil => cases member
  | cons e rest ih =>
    obtain ⟨k, v⟩ := e
    simp only [keys, List.map_cons, List.nodup_cons] at single ih
    rcases List.mem_cons.mp member with same | later
    · cases same
      simp [get?]
    · have other : k ≠ key := by
        rintro rfl
        exact single.1 (List.mem_map.mpr ⟨_, later, rfl⟩)
      rw [get?, if_neg other]
      exact ih single.2 later

theorem nodup_keys_put {m : Keyed α} (single : (keys m).Nodup) (key : String) (value : α) :
    (keys (put key value m)).Nodup := by
  rw [keys_put]
  by_cases there : key ∈ keys m
  · rwa [if_pos there]
  · rw [if_neg there, List.nodup_append]
    refine ⟨single, by simp, fun a old b new => ?_⟩
    rw [List.mem_singleton] at new
    rintro rfl
    exact there (new ▸ old)

theorem nodup_keys_erase {m : Keyed α} (single : (keys m).Nodup) (key : String) : (keys (erase key m)).Nodup :=
  single.sublist (List.filter_sublist.map Prod.fst)

/-- Values that are put under other keys leave the value under a key alone. -/
theorem get?_foldl_put_of_not_mem {key : String} {β : Type} {name : β → String} {value : β → α} {bs : List β}
    (other : key ∉ bs.map name) (m : Keyed α) :
    get? key (bs.foldl (fun m b => put (name b) (value b) m) m) = get? key m := by
  induction bs generalizing m with
  | nil => rfl
  | cons b rest ih =>
    rw [List.map_cons, List.mem_cons, not_or] at other
    rw [List.foldl_cons, ih other.2, get?_put_of_ne other.1]

end Keyed

end Diagnosis
