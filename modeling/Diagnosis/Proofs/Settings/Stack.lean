import Mathlib.Data.List.Infix
import Diagnosis.Proofs.Settings.Merging
import Diagnosis.Proofs.Settings.Slots
import Diagnosis.Settings.Store

/-!
# Layers of a document

The snapshot for a document has, setting by setting, what the innermost layer that has
the setting has for it; nothing else in the layers matters.
-/

namespace Diagnosis.Settings

open Diagnosis.Json

/-- What the innermost of some layers that has a dotted key has there; the innermost layer is the last. -/
def innermost? (layers : List Fields) (key : String) : Option Value := layers.reverse.findSome? (lookup? · key)

/-! ## Look-ups in layers -/

section

variable {layer layer' base : Fields} {layers : List Fields} {key : String}

theorem keyParts_ne_nil (key : String) : keyParts key ≠ [] := (keyParts_undotted key).1

/-- Every proper part of the way to a setting is one of the groups. -/
theorem groups_of_slot : ∀ slot ∈ slots, ∀ front ∈ (keyParts slot.1).inits, front ≠ [] → front ≠ keyParts slot.1 →
    ∃ g ∈ groups, keyParts g = front := by
  decide +kernel

theorem Grouped.openTo (grouped : Grouped layer) {slot : String × Expected} (known : slot ∈ slots) :
    OpenTo (keyParts slot.1) layer := by
  refine openTo_of_objects fun front start some_front short v found => ?_
  obtain ⟨g, member, rfl⟩ := groups_of_slot slot known front ((List.mem_inits _ _).mpr start) some_front short
  have object := grouped g member
  rw [lookup?, found, Option.all_some] at object
  cases v with
  | object inner => exact ⟨inner, rfl⟩
  | _ => cases object

theorem lookup?_overlay (tidy : Tidy (.object layer)) (opens : OpenTo (keyParts key) layer) (base : Fields) :
    lookup? (overlay base layer) key =
      match lookup? layer key with
      | none => lookup? base key
      | some v => some (mergeValue v (lookup? base key)) :=
  valueAt?_overlay tidy opens

@[simp] theorem innermost?_concat (layers : List Fields) (layer : Fields) (key : String) :
    innermost? (layers ++ [layer]) key = (lookup? layer key).or (innermost? layers key) := by
  rw [innermost?, List.reverse_append, List.reverse_singleton, List.singleton_append, List.findSome?_cons]
  cases lookup? layer key <;> rfl

/-- Two finds are the same, or both are objects. -/
def Agree (v w : Option Value) : Prop := v = w ∨ ∃ a b, v = some (.object a) ∧ w = some (.object b)

theorem Agree.some_iff {v w : Option Value} (agree : Agree v w) {u : Value} (plain : u.fields? = none) :
    v = some u ↔ w = some u := by
  rcases agree with rfl | ⟨a, b, rfl, rfl⟩
  · rfl
  · constructor <;>
    · intro same
      cases same
      cases plain

theorem Agree.none_iff {v w : Option Value} (agree : Agree v w) : v = none ↔ w = none := by
  rcases agree with rfl | ⟨a, b, rfl, rfl⟩
  · rfl
  · simp

theorem agree_mergeValue (v : Value) (old : Option Value) : Agree (some (mergeValue v old)) (some v) := by
  rcases mergeValue_cases v old with ⟨upper, below, rfl, _, merged⟩ | ⟨kept, _⟩
  · exact .inr ⟨_, _, congrArg some merged, rfl⟩
  · exact .inl (congrArg some kept)

/-- What layers put over each other have for a setting is what the innermost one has, if that is no object. -/
theorem agree_innermost {slot : String × Expected} (known : slot ∈ slots) (base : Fields)
    (tidy : ∀ layer ∈ layers, Tidy (.object layer)) (grouped : ∀ layer ∈ layers, Grouped layer) :
    Agree (lookup? (layers.foldl overlay base) slot.1) (innermost? (base :: layers) slot.1) := by
  induction layers using List.reverseRecOn with
  | nil =>
    left
    cases found : lookup? base slot.1 <;> simp [innermost?, found]
  | append_singleton front layer ih =>
    have below := ih (fun other member => tidy other (List.mem_append_left _ member))
      (fun other member => grouped other (List.mem_append_left _ member))
    rw [List.foldl_concat, ← List.cons_append, innermost?_concat,
      lookup?_overlay (tidy layer (by simp)) ((grouped layer (by simp)).openTo known)]
    cases lookup? layer slot.1 with
    | none => exact below
    | some v => exact agree_mergeValue v _

theorem foldl_overlay_tidy (below : Tidy (.object base)) (tidy : ∀ layer ∈ layers, Tidy (.object layer)) :
    Tidy (.object (layers.foldl overlay base)) := by
  induction layers generalizing base with
  | nil => exact below
  | cons layer rest ih =>
    exact ih (below.overlay (tidy layer List.mem_cons_self)) fun other later => tidy other (List.mem_cons_of_mem _ later)

theorem foldl_overlay_same {layers' : List Fields} (alike : List.Forall₂ SameSettings layers layers')
    (tidy : ∀ layer ∈ layers, Tidy (.object layer)) (grouped : ∀ layer ∈ layers, Grouped layer)
    (tidyToo : ∀ layer ∈ layers', Tidy (.object layer)) (groupedToo : ∀ layer ∈ layers', Grouped layer)
    {base' : Fields} (same : SameSettings base base') :
    SameSettings (layers.foldl overlay base) (layers'.foldl overlay base') := by
  induction alike generalizing base base' with
  | nil => exact same
  | @cons layer layer' rest rest' first later ih =>
    refine ih (fun other member => tidy other (List.mem_cons_of_mem _ member))
      (fun other member => grouped other (List.mem_cons_of_mem _ member))
      (fun other member => tidyToo other (List.mem_cons_of_mem _ member))
      (fun other member => groupedToo other (List.mem_cons_of_mem _ member)) fun slot known => ?_
    rw [lookup?_overlay (tidy layer List.mem_cons_self) ((grouped layer List.mem_cons_self).openTo known),
      lookup?_overlay (tidyToo layer' List.mem_cons_self) ((groupedToo layer' List.mem_cons_self).openTo known),
      first slot known, same slot known]

/-- The built-in layer has a plain value for every setting. -/
theorem lookup?_builtIn : ∀ slot ∈ slots, ∃ v, lookup? builtIn slot.1 = some v ∧ accepts slot.2 v = true := by
  intro slot known
  have all : slots.all (fun slot => (lookup? builtIn slot.1).any (accepts slot.2)) = true := by decide +kernel
  obtain ⟨v, found, accepted⟩ := (Option.any_eq_true _ _).mp (List.all_eq_true.mp all slot known)
  exact ⟨v, found, accepted⟩

theorem builtIn_grouped : Grouped builtIn := by decide +kernel

theorem plain_of_accepts {expected : Expected} {v : Value} (accepted : accepts expected v = true) : v.fields? = none := by
  cases v with
  | object fields => cases expected <;> cases accepted
  | _ => rfl

theorem foldl_overlay_openTo {slot : String × Expected} (known : slot ∈ slots) (below : OpenTo (keyParts slot.1) base)
    (tidy : ∀ layer ∈ layers, Tidy (.object layer)) (grouped : ∀ layer ∈ layers, Grouped layer) :
    OpenTo (keyParts slot.1) (layers.foldl overlay base) := by
  induction layers generalizing base with
  | nil => exact below
  | cons layer rest ih =>
    exact ih (below.overlay ((grouped layer List.mem_cons_self).openTo known) (tidy layer List.mem_cons_self))
      (fun other later => tidy other (List.mem_cons_of_mem _ later))
      fun other later => grouped other (List.mem_cons_of_mem _ later)

/-- Going over the built-in layer once more changes nothing in layers that are over it. -/
theorem ofFields_foldl_overlay (tidy : ∀ layer ∈ layers, Tidy (.object layer)) (grouped : ∀ layer ∈ layers, Grouped layer) :
    ofFields (layers.foldl overlay builtIn) = ofComplete (layers.foldl overlay builtIn) := by
  have whole := foldl_overlay_tidy builtIn_tidy tidy
  rw [ofFields, whole.expand]
  refine ofComplete_congr fun slot known => ?_
  obtain ⟨least, found, accepted⟩ := lookup?_builtIn slot known
  rw [lookup?_overlay whole (foldl_overlay_openTo known (builtIn_grouped.openTo known) tidy grouped)]
  cases merged : lookup? (layers.foldl overlay builtIn) slot.1 with
  | none =>
    have nothing := (agree_innermost known builtIn tidy grouped).none_iff.mp merged
    rw [innermost?, List.findSome?_eq_none_iff] at nothing
    exact nothing builtIn (by simp)
  | some v =>
    dsimp only
    rw [found]
    rcases mergeValue_cases v (some least) with ⟨_, below, _, same, _⟩ | ⟨kept, _⟩
    · cases same
      cases plain_of_accepts accepted
    · rw [kept]

/-- What a snapshot has for a setting is what the setting has to be. -/
theorem slot_of_values {settings : Settings} {e : String × Value} (member : e ∈ settings.values) :
    ∃ slot ∈ slots, slot.1 = e.1 ∧ accepts slot.2 e.2 = true := by
  have covered : ∀ e ∈ settings.values, ∃ slot ∈ slots, slot.1 = e.1 ∧ accepts slot.2 e.2 = true := by
    simp only [values, slots, List.forall_mem_cons]
    simp [accepts, Value.text?, Value.int?, texts?_eq_some_iff, Option.isSome_iff_exists]
  exact covered e member

/-- Layers give a snapshot if and only if it has, for every setting, what the innermost layer has. -/
theorem ofFields_eq_ok_iff {settings : Settings} (tidy : ∀ layer ∈ layers, Tidy (.object layer))
    (grouped : ∀ layer ∈ layers, Grouped layer) :
    ofFields (layers.foldl overlay builtIn) = .ok settings ↔
      ∀ e ∈ settings.values, innermost? (builtIn :: layers) e.1 = some e.2 := by
  rw [ofFields_foldl_overlay tidy grouped, ofComplete_eq_ok_iff]
  refine forall₂_congr fun e member => ?_
  obtain ⟨slot, known, same, accepted⟩ := slot_of_values member
  rw [← same]
  exact (agree_innermost known builtIn tidy grouped).some_iff (plain_of_accepts accepted)

/-- Layers give a snapshot if and only if the innermost layer has what each setting has to be. -/
theorem exists_ofFields_iff (tidy : ∀ layer ∈ layers, Tidy (.object layer)) (grouped : ∀ layer ∈ layers, Grouped layer) :
    (∃ settings, ofFields (layers.foldl overlay builtIn) = .ok settings) ↔
      ∀ slot ∈ slots, ∃ v, innermost? (builtIn :: layers) slot.1 = some v ∧ accepts slot.2 v = true := by
  rw [ofFields_foldl_overlay tidy grouped, exists_ofComplete_iff]
  refine forall₂_congr fun slot known => exists_congr fun v => and_congr_left fun accepted => ?_
  exact (agree_innermost known builtIn tidy grouped).some_iff (plain_of_accepts accepted)

/-- Layers with the same for every setting give the same. -/
theorem ofFields_same {layers' : List Fields} (alike : List.Forall₂ SameSettings layers layers')
    (tidy : ∀ layer ∈ layers, Tidy (.object layer)) (grouped : ∀ layer ∈ layers, Grouped layer)
    (tidyToo : ∀ layer ∈ layers', Tidy (.object layer)) (groupedToo : ∀ layer ∈ layers', Grouped layer) :
    ofFields (layers'.foldl overlay builtIn) = ofFields (layers.foldl overlay builtIn) := by
  rw [ofFields_foldl_overlay tidy grouped, ofFields_foldl_overlay tidyToo groupedToo]
  exact ofComplete_congr (foldl_overlay_same alike tidy grouped tidyToo groupedToo fun _ _ => rfl)

end

/-! ## Putting a value elsewhere in a layer -/

section

variable {layer : Fields} {path : List String}

/-- On the way to a path at which a value is put there are objects. -/
theorem valueAt?_putAt_way {front more : List String} (some_front : front ≠ []) (some_more : more ≠ []) (v : Value)
    (fields : Fields) : ∃ inner, valueAt? front (.object (putAt (front ++ more) v fields)) = some (.object inner) := by
  induction front generalizing fields with
  | nil => exact absurd rfl some_front
  | cons key rest ih =>
    obtain ⟨next, later, onward⟩ : ∃ next later, rest ++ more = next :: later :=
      List.exists_cons_of_ne_nil (by simp [some_more])
    rw [List.cons_append, onward, putAt, valueAt?, get?_put, if_pos rfl, Option.bind_some, ← onward]
    · cases rest with
      | nil => exact ⟨_, rfl⟩
      | cons => exact ih (by simp) _
    · simp

theorem Elsewhere.sameSettings (elsewhere : Elsewhere path) (layer : Fields) (v : Value) :
    SameSettings layer (putAt path v layer) := fun slot known =>
  valueAt?_putAt (elsewhere slot known).1 (elsewhere slot known).2 v layer

/-- Every group has a setting in it. -/
theorem slot_of_groups : ∀ g ∈ groups, ∃ slot ∈ slots, keyParts g ∈ (keyParts slot.1).inits := by decide +kernel

theorem Elsewhere.grouped (elsewhere : Elsewhere path) (grouped : Grouped layer) (v : Value) :
    Grouped (putAt path v layer) := by
  intro g member
  obtain ⟨slot, known, start⟩ := slot_of_groups g member
  have start := (List.mem_inits _ _).mp start
  have apart : ¬ path <+: keyParts g := fun onto => (elsewhere slot known).1 (onto.trans start)
  by_cases beyond : keyParts g <+: path
  · obtain ⟨more, rfl⟩ := beyond
    have some_more : more ≠ [] := by
      rintro rfl
      exact apart (by simp)
    obtain ⟨inner, found⟩ := valueAt?_putAt_way (keyParts_ne_nil g) some_more v layer
    rw [lookup?, found]
    rfl
  · rw [lookup?, valueAt?_putAt apart beyond]
    exact grouped g member

end

/-! ## The layers of a document -/

namespace Store

variable {t t' : FileTree} {directory files : List String} {folder : Path} {workspace : Option String} {s : Store}
  {l : Loaded} {document : String} {layers chain : List Fields}

/-- The layer of the user's own file, which is empty if the file cannot be read. -/
def ownLayer (t : FileTree) (directory : List String) (folder : Path) : Fields :=
  (loadLayer t directory (fileIn folder)).toOption.getD []

/-- The layers over the built-in one that count for a document, the outermost first. -/
inductive Layered (s : Store) (t : FileTree) (directory : List String) (document : String) : List Fields → Prop where
  | intro {before : FileTree} {folder : Path} {workspace : Option String} {l : Loaded} {files : List String}
      {chain : List Fields} (made : create before directory folder workspace = .ok (s, l))
      (counted : s.folderFiles t directory document = .ok files)
      (read : files.mapM (loadLayer t directory) = .ok chain) :
      Layered s t directory document (ownLayer l.tree directory folder :: chain)

/-- What a file's layer has been read from. -/
theorem readLayer_eq_ok {bytes : List Nat} {layer : Fields} (given : readLayer bytes = .ok layer) :
    ∃ cs v, readChars cs = .ok v ∧ layerOf? v = some layer := by
  unfold readLayer at given
  split at given
  · cases given
  · dsimp only at given
    split at given
    · cases given
    · rename_i read
      split at given
      · cases given
      · rename_i layered
        cases given
        exact ⟨_, _, read, layered⟩

theorem loadLayer_eq_ok {path : String} {layer : Fields} (given : loadLayer t directory path = .ok layer) :
    ∃ cs v, readChars cs = .ok v ∧ layerOf? v = some layer := by
  unfold loadLayer at given
  split at given
  · cases given
  · exact readLayer_eq_ok given

theorem loadLayer_tidy {path : String} {layer : Fields} (given : loadLayer t directory path = .ok layer) :
    Tidy (.object layer) := by
  obtain ⟨_, _, _, layered⟩ := loadLayer_eq_ok given
  exact layerOf_tidy layered

theorem ownLayer_tidy (t : FileTree) (directory : List String) (folder : Path) :
    Tidy (.object (ownLayer t directory folder)) := by
  unfold ownLayer
  cases given : loadLayer t directory (fileIn folder) with
  | error reason => exact tidy_nil
  | ok layer => exact loadLayer_tidy given

/-- What is loaded is the user's own layer over the built-in one. -/
theorem load_fields (loaded : load t directory folder = .ok l) :
    l.fields = overlay builtIn (ownLayer l.tree directory folder) := by
  unfold load at loaded
  cases made : t.makeDirectories directory folder with
  | error e =>
    rw [made] at loaded
    cases loaded
  | ok t₁ =>
    rw [made] at loaded
    simp only [bind, Except.bind] at loaded
    cases there : t₁.holds directory (fileIn folder) with
    | false =>
      rw [there] at loaded
      cases loaded
      have unread : ownLayer t₁ directory folder = [] := by
        unfold FileTree.holds FileTree.find? at there
        unfold ownLayer loadLayer FileTree.read
        rcases located : t₁.locate true directory (fileIn folder) with fault | ⟨place, _ | e⟩
        · rfl
        · rfl
        · rw [located] at there
          cases there
      rw [unread]
      rfl
    | true =>
      rw [there] at loaded
      cases given : loadLayer t₁ directory (fileIn folder) with
      | error reason =>
        rw [given] at loaded
        cases loaded
        rw [ownLayer, given]
        rfl
      | ok layer =>
        rw [given] at loaded
        cases loaded
        rw [ownLayer, given]
        rfl

/-- The settings of a folder have been loaded from it. -/
theorem create_loaded (made : create t directory folder workspace = .ok (s, l)) :
    s.folder = folder ∧ s.fields = l.fields ∧ load t directory folder = .ok l := by
  have based (root : Option Path)
      (made : ((load t directory folder).mapError Failure.system >>= fun l =>
        Except.ok (Store.mk folder root l.fields, l)) = .ok (s, l)) :
      s.folder = folder ∧ s.fields = l.fields ∧ load t directory folder = .ok l := by
    obtain ⟨found, loaded, made⟩ := bind_eq_ok_iff.mp made
    cases made
    cases given : load t directory folder with
    | error e =>
      rw [given] at loaded
      cases loaded
    | ok l =>
      rw [given] at loaded
      cases loaded
      exact ⟨rfl, rfl, rfl⟩
  unfold create at made
  dsimp only at made
  split at made
  · obtain ⟨root, _, made⟩ := bind_eq_ok_iff.mp made
    exact based root made
  · exact based none made

theorem create_fields (made : create t directory folder workspace = .ok (s, l)) :
    s.fields = overlay builtIn (ownLayer l.tree directory folder) := by
  obtain ⟨_, same, loaded⟩ := create_loaded made
  rw [same, load_fields loaded]

/-- Files that can be read are put over the rest one after the other. -/
theorem stack_ok (read : files.mapM (loadLayer t directory) = .ok chain) (fields : Fields) :
    stack t directory fields files = .ok (chain.foldl overlay fields) := by
  induction files generalizing fields chain with
  | nil =>
    cases read
    rfl
  | cons path rest ih =>
    rw [List.mapM_cons] at read
    obtain ⟨layer, first, read⟩ := bind_eq_ok_iff.mp read
    obtain ⟨others, later, read⟩ := bind_eq_ok_iff.mp read
    cases read
    rw [stack, first]
    exact ih later _

/-- The outermost file that cannot be read is the fault. -/
theorem stack_error (unread : ∃ file ∈ files, ∃ reason, loadLayer t directory file = .error reason) (fields : Fields) :
    ∃ file ∈ files, ∃ reason, loadLayer t directory file = .error reason ∧
      stack t directory fields files = .error (.unreadable file reason) := by
  induction files generalizing fields with
  | nil =>
    obtain ⟨_, none_such, _⟩ := unread
    cases none_such
  | cons path rest ih =>
    rw [stack]
    cases first : loadLayer t directory path with
    | error reason => exact ⟨path, List.mem_cons_self, reason, first, rfl⟩
    | ok layer =>
      obtain ⟨file, member, reason, failed⟩ := unread
      have later : file ∈ rest := by
        rcases List.mem_cons.mp member with rfl | later
        · cases first.symm.trans failed
        · exact later
      obtain ⟨other, among, why, unreadable, fault⟩ := ih ⟨file, later, reason, failed⟩ (overlay fields layer)
      exact ⟨other, List.mem_cons_of_mem _ among, why, unreadable, fault⟩

theorem mem_of_mapM_loadLayer (read : files.mapM (loadLayer t directory) = .ok chain) :
    ∀ layer ∈ chain, Tidy (.object layer) := by
  induction files generalizing chain with
  | nil =>
    cases read
    simp
  | cons path rest ih =>
    rw [List.mapM_cons] at read
    obtain ⟨layer, first, read⟩ := bind_eq_ok_iff.mp read
    obtain ⟨others, later, read⟩ := bind_eq_ok_iff.mp read
    cases read
    exact List.forall_mem_cons.mpr ⟨loadLayer_tidy first, ih later⟩

theorem Layered.tidy (layered : Layered s t directory document layers) : ∀ layer ∈ layers, Tidy (.object layer) := by
  cases layered with
  | intro made counted read => exact List.forall_mem_cons.mpr ⟨ownLayer_tidy .., mem_of_mapM_loadLayer read⟩

/-- The settings for a document are those that its layers give. -/
theorem Layered.settingsFor (layered : Layered s t directory document layers) :
    s.settingsFor t directory document =
      (ofFields (layers.foldl overlay builtIn)).mapError fun e => .engine (.configuration e) := by
  cases layered with
  | intro made counted read =>
    unfold Store.settingsFor
    rw [counted]
    simp only [bind, Except.bind]
    rw [stack_ok read, create_fields made]
    rfl

/-- The settings for a document. If one of the folders' files that count is no layer, such a file is the
fault. Otherwise, as long as no layer has anything but an object where settings are grouped, the settings
have, for every path, what the innermost layer with that path has, if that is what each has to be, and
there is a fault if it is not. Nothing else in the layers matters: neither for other layers with the same
for every setting, nor what is put at a path that has no setting on it, at it or beyond it. -/
theorem settingsFor_innermost (made : create t directory folder workspace = .ok (s, l))
    (counted : s.folderFiles t' directory document = .ok files) :
    ((∃ file ∈ files, ∃ reason, loadLayer t' directory file = .error reason) →
      ∃ file ∈ files, ∃ reason, loadLayer t' directory file = .error reason ∧
        s.settingsFor t' directory document = .error (.engine (.configuration (.unreadable file reason)))) ∧
    ∀ chain, files.mapM (loadLayer t' directory) = .ok chain →
      (∀ layer ∈ ownLayer l.tree directory folder :: chain, Grouped layer) →
      (∀ settings, s.settingsFor t' directory document = .ok settings ↔
        ∀ e ∈ settings.values, innermost? (builtIn :: ownLayer l.tree directory folder :: chain) e.1 = some e.2) ∧
      ((∀ slot ∈ slots, ∃ v, innermost? (builtIn :: ownLayer l.tree directory folder :: chain) slot.1 = some v ∧
          accepts slot.2 v = true) →
        ∃ settings, s.settingsFor t' directory document = .ok settings) ∧
      ((∃ slot ∈ slots, ∀ v, innermost? (builtIn :: ownLayer l.tree directory folder :: chain) slot.1 = some v →
          accepts slot.2 v = false) →
        ∃ fault, s.settingsFor t' directory document = .error (.engine (.configuration fault))) ∧
      (∀ {s₂ : Store} {t₂ : FileTree} {directory₂ : List String} {document₂ : String} {layers₂ : List Fields},
        Layered s₂ t₂ directory₂ document₂ layers₂ → (∀ layer ∈ layers₂, Grouped layer) →
        List.Forall₂ SameSettings (ownLayer l.tree directory folder :: chain) layers₂ →
        s₂.settingsFor t₂ directory₂ document₂ = s.settingsFor t' directory document) ∧
      ∀ layer path v, Elsewhere path → Grouped layer →
        SameSettings layer (putAt path v layer) ∧ Grouped (putAt path v layer) := by
  refine ⟨fun unread => ?_, fun chain read grouped => ?_⟩
  · obtain ⟨file, member, reason, failed, fault⟩ := stack_error unread s.fields
    refine ⟨file, member, reason, failed, ?_⟩
    unfold settingsFor
    rw [counted]
    simp only [bind, Except.bind]
    rw [fault]
    rfl
  · have layered : Layered s t' directory document (ownLayer l.tree directory folder :: chain) := .intro made counted read
    have accepted := exists_ofFields_iff layered.tidy grouped
    refine ⟨fun settings => ?_, fun all => ?_, fun ⟨slot, known, wrong⟩ => ?_, fun layered₂ grouped₂ alike => ?_,
      fun layer path v elsewhere grouped => ⟨elsewhere.sameSettings layer v, elsewhere.grouped grouped v⟩⟩
    · rw [layered.settingsFor, ← ofFields_eq_ok_iff layered.tidy grouped]
      cases ofFields ((ownLayer l.tree directory folder :: chain).foldl overlay builtIn) <;> simp [Except.mapError]
    · obtain ⟨settings, given⟩ := accepted.mpr all
      exact ⟨settings, by rw [layered.settingsFor, given]; rfl⟩
    · cases given : ofFields ((ownLayer l.tree directory folder :: chain).foldl overlay builtIn) with
      | error fault => exact ⟨fault, by rw [layered.settingsFor, given]; rfl⟩
      | ok settings =>
        obtain ⟨v, found, right⟩ := accepted.mp ⟨settings, given⟩ slot known
        rw [wrong v found] at right
        cases right
    · rw [layered.settingsFor, layered₂.settingsFor, ofFields_same alike layered.tidy grouped layered₂.tidy grouped₂]

/-- A user's file with a section, a folder's file with nested and dotted keys, and one further in. -/
def layeredTree : FileTree where
  entries :=
    let bytes (text : String) := Encoding.Utf8.encode text.toList
    [(["home"], .directory),
      (["home", "config.json"], .file (bytes "\x7b\"cccdiag\": \x7b\"compileCommand\": \"cc\", \"parse.index.line_pos\": 5\x7d\x7d")),
      (["w"], .directory), (["w", ".cccdiag.json"], .file (bytes "\x7b\"parse.index\": \x7b\"line_pos\": 7\x7d, \"a.b\": 1\x7d")),
      (["w", "a"], .directory), (["w", "a", ".cccdiag.json"], .file (bytes "\x7b\"compileCommand\": \"clang\"\x7d"))]

/-- Each setting comes from the innermost file that has it. -/
theorem settingsFor_innermost_nested :
    ∃ s l files chain, create layeredTree [] ⟨"/", ["home"]⟩ (some "/w") = .ok (s, l) ∧
      s.folderFiles layeredTree [] "/w/a/x.c" = .ok files ∧ files = ["/w/.cccdiag.json", "/w/a/.cccdiag.json"] ∧
      files.mapM (loadLayer layeredTree []) = .ok chain ∧
      innermost? (builtIn :: ownLayer l.tree [] ⟨"/", ["home"]⟩ :: chain) "compileCommand" = some (.text "clang") ∧
      innermost? (builtIn :: ownLayer l.tree [] ⟨"/", ["home"]⟩ :: chain) "parse.index.line_pos" = some (.int 7) ∧
      s.settingsFor layeredTree [] "/w/a/x.c" =
        .ok { command := "clang", indices := { file := 1, line := 7, column := 3, severity := 4 } } := by
  have checked : (create layeredTree [] ⟨"/", ["home"]⟩ (some "/w")).toOption.any (fun made : Store × Loaded =>
      (made.1.folderFiles layeredTree [] "/w/a/x.c" == .ok ["/w/.cccdiag.json", "/w/a/.cccdiag.json"]) &&
      (made.1.settingsFor layeredTree [] "/w/a/x.c" ==
        .ok { command := "clang", indices := { file := 1, line := 7, column := 3, severity := 4 } }) &&
      (["/w/.cccdiag.json", "/w/a/.cccdiag.json"].mapM (loadLayer layeredTree [])).toOption.any (fun chain : List Fields =>
        (ownLayer made.2.tree [] ⟨"/", ["home"]⟩ :: chain).all fun layer => decide (Grouped layer))) = true := by
    decide +kernel
  obtain ⟨⟨s, l⟩, made, checked⟩ := exists_ok_of_any checked
  rw [Bool.and_eq_true, Bool.and_eq_true, beq_iff_eq, beq_iff_eq] at checked
  obtain ⟨⟨counted, given⟩, grouped⟩ := checked
  obtain ⟨chain, read, grouped⟩ := exists_ok_of_any grouped
  have grouped : ∀ layer ∈ ownLayer l.tree [] ⟨"/", ["home"]⟩ :: chain, Grouped layer := fun layer member =>
    of_decide_eq_true (List.all_eq_true.mp grouped layer member)
  obtain ⟨innermost, _⟩ := (settingsFor_innermost made counted).2 chain read grouped
  have found := (innermost _).mp given
  exact ⟨s, l, _, chain, made, counted, rfl, read, found ("compileCommand", .text "clang") (by simp [values]),
    found ("parse.index.line_pos", .int 7) (by simp [values]), given⟩

end Store

end Diagnosis.Settings
