import Diagnosis.Proofs.FileTree.Write
import Diagnosis.Proofs.Settings.Completion
import Diagnosis.Proofs.Settings.Saved

/-!
# Settings in memory and in the file

Whoever changes a setting changes the settings in memory first and then writes all of them to the
user's file; reloading puts the file over the built-in settings again. The two agree unless a
group of settings that was replaced by a plain value has become a group again without what is
built in, or the file cannot be written.
-/

namespace Diagnosis.Settings.Store

open Diagnosis.Json

/-! ## Calls -/

/-- What is done with the settings of a user. -/
inductive Call where
  | set (key : String) (v : Value)
  | reload

/-- What a call makes of the settings and the files, and why it failed if it did. -/
def Call.apply (directory : List String) (now : Store × FileTree) : Call → (Store × FileTree) × Option SystemError
  | .set key v =>
    let s := now.1.withValue key v
    let (t, fault) := s.save now.2 directory
    ((s, t), fault)
  | .reload =>
    match load now.2 directory now.1.folder with
    | .error fault => (now, some fault)
    | .ok l => (({ now.1 with fields := l.fields }, l.tree), none)

/-- The settings and the files after calls one after the other. -/
def afterCalls (directory : List String) (start : Store × FileTree) (calls : List Call) : Store × FileTree :=
  calls.foldl (fun now call => (call.apply directory now).1) start

/-- A value that is set is one that a JSON text gives. -/
def Call.IsJson : Call → Prop
  | .set _ v => ∃ cs, readChars cs = .ok v
  | .reload => True

/-- No plain value is put in place of a group of settings. -/
def Call.KeepsGroups : Call → Prop
  | .set key v => Grouped (expand [(key, v)])
  | .reload => True

/-- The settings in memory are those that would be made anew from the same folder. -/
def InStep (directory : List String) (now : Store × FileTree) : Prop :=
  ∃ fresh l, create now.2 directory now.1.folder none = .ok (fresh, l) ∧
    Alike (some (.object now.1.fields)) (some (.object fresh.fields))

variable {t : FileTree} {directory : List String} {folder : Path} {workspace : Option String} {s : Store} {l : Loaded}
  {now : Store × FileTree} {call : Call} {calls : List Call} {writable : Prop}

/-! ## Loading -/

/-- Where the folder is there, loading changes nothing and gives the user's own layer over the built-in one. -/
theorem load_of_isDirectory (there : t.isDirectory directory folder.text = true) :
    ∃ fresh, load t directory folder = .ok fresh ∧ fresh.tree = t ∧
      fresh.fields = overlay builtIn (ownLayer t directory folder) := by
  have loaded : ∃ fresh, load t directory folder = .ok fresh ∧ fresh.tree = t := by
    unfold load
    rw [FileTree.makeDirectories_of_isDirectory there]
    simp only [bind, Except.bind]
    split
    · exact ⟨_, rfl, rfl⟩
    · split <;> exact ⟨_, rfl, rfl⟩
  obtain ⟨fresh, loaded, same⟩ := loaded
  refine ⟨fresh, loaded, same, ?_⟩
  rw [load_fields loaded, same]

/-- Loading makes sure that the folder is there. -/
theorem isDirectory_of_load (loaded : load t directory folder = .ok l) : l.tree.isDirectory directory folder.text = true := by
  unfold load at loaded
  obtain ⟨t₁, made, loaded⟩ := bind_eq_ok_iff.mp loaded
  have there := FileTree.isDirectory_of_makeDirectories made
  split at loaded
  · cases loaded
    exact there
  · split at loaded <;>
    · cases loaded
      exact there

/-! ## What calls keep -/

/-- What holds before and after every call. -/
structure Standing (directory : List String) (folder : Path) (writable : Prop) (now : Store × FileTree) : Prop where
  placed : now.1.folder = folder
  there : now.2.isDirectory directory folder.text = true
  tidy : Tidy (.object now.1.fields)
  proper : Proper (.object now.1.fields)
  /-- One key that is no section's name shows that the settings are not nested under one. -/
  named : "compileCommand" ∈ now.1.fields.keys
  writable : now.2.Writable directory (fileIn folder) ↔ writable

/-- The built-in settings with a layer over them have all that is needed. -/
theorem standing_of_overlay (placed : s.folder = folder) (there : t.isDirectory directory folder.text = true)
    (same : s.fields = overlay builtIn (ownLayer t directory folder))
    (may : t.Writable directory (fileIn folder) ↔ writable) : Standing directory folder writable (s, t) := by
  have own := ownLayer_tidy t directory folder
  refine ⟨placed, there, ?_, ?_, ?_, may⟩ <;> dsimp only <;> rw [same]
  · exact builtIn_tidy.overlay own
  · exact proper_expandable.overlay builtIn_proper (ownLayer_proper ..)
  · exact mem_keys_overlay own (by decide)

theorem standing_of_create (made : create t directory folder workspace = .ok (s, l)) :
    Standing directory folder (l.tree.Writable directory (fileIn folder)) (s, l.tree) := by
  obtain ⟨placed, _, loaded⟩ := create_loaded made
  exact standing_of_overlay placed (isDirectory_of_load loaded) (create_fields made) Iff.rfl

/-- Reloading changes nothing but the settings in memory. -/
theorem apply_reload (standing : Standing directory folder writable now) :
    Call.apply directory now .reload =
      (({ now.1 with fields := overlay builtIn (ownLayer now.2 directory folder) }, now.2), none) := by
  obtain ⟨fresh, loaded, same, fields⟩ := load_of_isDirectory standing.there
  unfold Call.apply
  dsimp only
  rw [standing.placed, loaded, ← fields]
  dsimp only
  rw [same]

/-- Setting a value changes the settings in memory, and writes them if the file can be written. -/
theorem apply_set (standing : Standing directory folder writable now) (key : String) (v : Value) :
    ∃ t' fault, Call.apply directory now (.set key v) = ((now.1.withValue key v, t'), fault) ∧
      ((fault = none ∧ writable ∧ now.2.write directory (fileIn folder)
          (Encoding.Utf8.encode (renderIndented (.object (now.1.withValue key v).fields)).toList) = .ok t') ∨
        (fault ≠ none ∧ ¬ writable ∧ t' = now.2 ∧ ∃ why, now.2.read directory (fileIn folder) = .error why)) := by
  have placed : (now.1.withValue key v).folder = folder := standing.placed
  unfold Call.apply save file
  dsimp only
  rw [placed, FileTree.makeDirectories_of_isDirectory standing.there]
  dsimp only
  cases written : now.2.write directory (fileIn folder)
      (Encoding.Utf8.encode (renderIndented (.object (now.1.withValue key v).fields)).toList) with
  | ok t' => exact ⟨t', none, rfl, .inl ⟨rfl, standing.writable.mp (FileTree.writable_of_write written).1, rfl⟩⟩
  | error why =>
    refine ⟨now.2, some why, rfl, .inr ⟨by simp, fun can => ?_, rfl, FileTree.read_of_write_error written⟩⟩
    obtain ⟨t', done⟩ := FileTree.exists_write_of_writable (standing.writable.mpr can) _
    cases done.symm.trans written

/-- Calls keep what is needed to load and save. -/
theorem Standing.apply (standing : Standing directory folder writable now) (json : call.IsJson) :
    Standing directory folder writable (call.apply directory now).1 := by
  cases call with
  | reload =>
    rw [apply_reload standing]
    exact standing_of_overlay standing.placed standing.there rfl standing.writable
  | set key v =>
    obtain ⟨cs, read⟩ := json
    have expanded : Tidy (.object (expand [(key, v)])) := tidy_expandable.expand fun _ _ => trivial
    have whole : ∀ e ∈ [(key, v)], Proper e.2 := List.forall_mem_singleton.mpr (readChars_proper read)
    obtain ⟨t', fault, applied, ⟨_, can, written⟩ | ⟨_, cannot, rfl, _⟩⟩ := apply_set standing key v
    · rw [applied]
      exact ⟨standing.placed, FileTree.isDirectory_of_write standing.there written, standing.tidy.overlay expanded,
        proper_expandable.overlay standing.proper (proper_expandable.expand whole), mem_keys_overlay expanded standing.named,
        iff_of_true (FileTree.writable_of_write written).2 can⟩
    · rw [applied]
      exact ⟨standing.placed, standing.there, standing.tidy.overlay expanded,
        proper_expandable.overlay standing.proper (proper_expandable.expand whole), mem_keys_overlay expanded standing.named,
        standing.writable⟩

theorem Standing.afterCalls (standing : Standing directory folder writable now) (json : ∀ call ∈ calls, call.IsJson) :
    Standing directory folder writable (afterCalls directory now calls) := by
  induction calls generalizing now with
  | nil => exact standing
  | cons call rest ih =>
    obtain ⟨here, later⟩ := List.forall_mem_cons.mp json
    exact ih (standing.apply here) later

/-! ## When memory and file agree -/

theorem inStep_iff (standing : Standing directory folder writable now) :
    InStep directory now ↔
      Alike (some (.object now.1.fields)) (some (.object (overlay builtIn (ownLayer now.2 directory folder)))) := by
  obtain ⟨l, loaded, _, fields⟩ := load_of_isDirectory standing.there
  have made : create now.2 directory folder none = .ok (⟨folder, none, l.fields⟩, l) := by
    simp only [create, workspaceOf, loaded, bind, Except.bind, Except.mapError]
    rfl
  unfold InStep
  rw [standing.placed, ← fields]
  constructor
  · rintro ⟨fresh, other, same, alike⟩
    cases made.symm.trans same
    exact alike
  · exact fun alike => ⟨_, l, made, alike⟩

/-- Memory and file agree if and only if every key has the same value after reloading. -/
theorem inStep_iff_get? (standing : Standing directory folder writable now) :
    InStep directory now ↔ ∀ key, Alike (now.1.get? key) ((Call.reload.apply directory now).1.1.get? key) := by
  have reloaded := standing.apply (show Call.reload.IsJson from trivial)
  rw [inStep_iff standing]
  rw [apply_reload standing] at reloaded ⊢
  exact alike_iff_lookup? standing.tidy reloaded.tidy

theorem inStep_reload (standing : Standing directory folder writable now) :
    InStep directory (Call.reload.apply directory now).1 := by
  have reloaded := standing.apply (show Call.reload.IsJson from trivial)
  rw [inStep_iff reloaded, apply_reload standing]
  exact Alike.refl _

/-- Once the settings have been written, memory and file agree if and only if memory misses nothing of
what is built in. -/
theorem inStep_set_iff_complete (standing : Standing directory folder writable now) {key : String} {v : Value}
    (json : (Call.set key v).IsJson) (done : ((Call.set key v).apply directory now).2 = none) :
    InStep directory ((Call.set key v).apply directory now).1 ↔
      Complete builtIn ((Call.set key v).apply directory now).1.1.fields := by
  have after := standing.apply json
  rw [inStep_iff after]
  obtain ⟨t', fault, applied, ⟨_, _, written⟩ | ⟨failed, _⟩⟩ := apply_set standing key v
  · rw [applied] at after ⊢
    have own : ownLayer t' directory folder = (now.1.withValue key v).fields := by
      unfold ownLayer loadLayer
      rw [FileTree.read_of_write written]
      dsimp only
      rw [readLayer_encode after.tidy after.proper after.named (by decide)]
      rfl
    dsimp only
    rw [own]
    exact alike_overlay_iff after.tidy
  · rw [applied] at done
    exact absurd done failed

/-- If the settings could not be written, memory and file agree if and only if memory has what is built in. -/
theorem inStep_set_iff_builtIn (standing : Standing directory folder writable now) {key : String} {v : Value}
    (json : (Call.set key v).IsJson) (failed : ((Call.set key v).apply directory now).2 ≠ none) :
    InStep directory ((Call.set key v).apply directory now).1 ↔
      Alike (some (.object ((Call.set key v).apply directory now).1.1.fields)) (some (.object builtIn)) := by
  rw [inStep_iff (standing.apply json)]
  obtain ⟨t', fault, applied, ⟨done, _⟩ | ⟨_, _, rfl, why, unread⟩⟩ := apply_set standing key v
  · rw [applied] at failed
    exact absurd done failed
  · have nothing : ownLayer now.2 directory folder = [] := by
      unfold ownLayer loadLayer
      rw [unread]
      rfl
    rw [applied]
    dsimp only
    rw [nothing]
    rfl

/-- As long as no group of settings is replaced by a plain value, memory keeps all that is built in and
agrees with the file. -/
theorem inStep_of_full (standing : Standing directory folder writable now) (can : writable)
    (full : Full builtIn now.1.fields) (agree : InStep directory now) (json : call.IsJson) (keeps : call.KeepsGroups) :
    Full builtIn (call.apply directory now).1.1.fields ∧ InStep directory (call.apply directory now).1 := by
  cases call with
  | reload =>
    refine ⟨?_, inStep_reload standing⟩
    rw [inStep_iff standing] at agree
    rw [apply_reload standing]
    exact full.alike agree
  | set key v =>
    have expanded : Tidy (.object (expand [(key, v)])) := tidy_expandable.expand fun _ _ => trivial
    have done : ((Call.set key v).apply directory now).2 = none := by
      obtain ⟨t', fault, applied, ⟨done, _⟩ | ⟨_, cannot, _⟩⟩ := apply_set standing key v
      · rw [applied]
        exact done
      · exact absurd can cannot
    have kept : Full builtIn ((Call.set key v).apply directory now).1.1.fields := full.overlay_grouped expanded keeps
    exact ⟨kept, (inStep_set_iff_complete standing json done).mpr kept.complete⟩

theorem inStep_afterCalls (standing : Standing directory folder writable now) (can : writable)
    (full : Full builtIn now.1.fields) (agree : InStep directory now) (json : ∀ call ∈ calls, call.IsJson)
    (keeps : ∀ call ∈ calls, call.KeepsGroups) : InStep directory (afterCalls directory now calls) := by
  induction calls generalizing now with
  | nil => exact agree
  | cons call rest ih =>
    obtain ⟨json, jsonLater⟩ := List.forall_mem_cons.mp json
    obtain ⟨keeps, keepsLater⟩ := List.forall_mem_cons.mp keeps
    obtain ⟨full, agree⟩ := inStep_of_full standing can full agree json keeps
    exact ih (standing.apply json) full agree jsonLater keepsLater

/-- What is in memory and what is in the file after any calls. New settings agree with their file. A
reload never fails and makes memory and file agree. Setting a value always puts it over what is in memory;
it fails if and only if the file cannot be written, which no call changes. If it does not fail, memory
and file agree if and only if memory, wherever it has an object for one that is built in, has all of its
keys; if it fails, the files are as before, and memory and file agree if and only if memory has nothing
but what is built in. They agree if and only if every key has the same value before and after a reload;
and they always do if the file can be written and neither the user's layer nor a value that is set has
anything but an object where settings are grouped. -/
theorem memory_agrees_with_file (made : create t directory folder workspace = .ok (s, l))
    (json : ∀ c ∈ calls ++ [call], c.IsJson) :
    InStep directory (s, l.tree) ∧
    let before := afterCalls directory (s, l.tree) calls
    let after := call.apply directory before
    (call = .reload → after.2 = none ∧ after.1.2 = before.2 ∧ InStep directory after.1) ∧
    (∀ key v, call = .set key v →
      after.1.1.fields = overlay before.1.fields (expand [(key, v)]) ∧
      (after.2 = none ↔ l.tree.Writable directory (fileIn folder)) ∧
      (after.2 = none → (InStep directory after.1 ↔ Complete builtIn after.1.1.fields)) ∧
      (after.2 ≠ none → after.1.2 = before.2 ∧
        (InStep directory after.1 ↔ Alike (some (.object after.1.1.fields)) (some (.object builtIn))))) ∧
    (InStep directory after.1 ↔
      ∀ key, Alike (after.1.1.get? key) ((Call.reload.apply directory after.1).1.1.get? key)) ∧
    (l.tree.Writable directory (fileIn folder) → Grouped (ownLayer l.tree directory folder) →
      (∀ c ∈ calls ++ [call], c.KeepsGroups) → InStep directory after.1) := by
  obtain ⟨jsonBefore, jsonLast⟩ := List.forall_mem_append.mp json
  have jsonLast := List.forall_mem_singleton.mp jsonLast
  have start := standing_of_create made
  have standing := start.afterCalls jsonBefore
  have new : InStep directory (s, l.tree) := by
    rw [inStep_iff start]
    dsimp only
    rw [create_fields made]
    exact Alike.refl _
  refine ⟨new, ?_, ?_, inStep_iff_get? (standing.apply jsonLast), fun can grouped keeps => ?_⟩
  · rintro rfl
    rw [apply_reload standing]
    refine ⟨rfl, rfl, ?_⟩
    have agree := inStep_reload standing
    rwa [apply_reload standing] at agree
  · rintro key v rfl
    obtain ⟨t', fault, applied, outcome⟩ := apply_set standing key v
    refine ⟨by rw [applied]; rfl, ?_, inStep_set_iff_complete standing jsonLast, fun failed =>
      ⟨?_, inStep_set_iff_builtIn standing jsonLast failed⟩⟩
    · rw [applied]
      rcases outcome with ⟨done, can, _⟩ | ⟨failed, cannot, _⟩
      · exact iff_of_true done can
      · exact iff_of_false failed cannot
    · rw [applied] at failed ⊢
      rcases outcome with ⟨done, _⟩ | ⟨_, _, same, _⟩
      · exact absurd done failed
      · exact same
  · have full : Full builtIn s.fields := by
      rw [create_fields made]
      exact (Full.refl builtIn).overlay_grouped (ownLayer_tidy ..) grouped
    have agree := inStep_afterCalls start can full new json keeps
    rwa [afterCalls, List.foldl_concat] at agree

/-- A group of settings that was replaced by a string and is set again in part has lost the rest in memory,
until the settings are loaded anew. -/
theorem memory_agrees_with_file_lost :
    ∃ s l, create {} [] ⟨"/", ["home"]⟩ none = .ok (s, l) ∧
      let after := (Call.set "parse.encoding" (.text "x")).apply [] (afterCalls [] (s, l.tree) [.set "parse" (.text "x")])
      after.2 = none ∧ ¬ InStep [] after.1 ∧ InStep [] (Call.reload.apply [] after.1).1 := by
  have checked : (create {} [] ⟨"/", ["home"]⟩ none).toOption.any (fun made : Store × Loaded =>
      let after := (Call.set "parse.encoding" (.text "x")).apply [] (afterCalls [] (made.1, made.2.tree) [.set "parse" (.text "x")])
      after.2.isNone && (after.1.1.get? "parse").any fun v =>
        v.fields?.any fun fields => ! fields.keys.contains "diagInfoPattern") = true := by
    decide +kernel
  obtain ⟨⟨s, l⟩, made, checked⟩ := exists_ok_of_any checked
  obtain ⟨done, lost⟩ := Bool.and_eq_true_iff.mp checked
  have done := Option.isNone_iff_eq_none.mp done
  have first : (Call.set "parse" (.text "x")).IsJson := ⟨_, readChars_writeValue (.text "x") .line 0⟩
  have second : (Call.set "parse.encoding" (.text "x")).IsJson := ⟨_, readChars_writeValue (.text "x") .line 0⟩
  have json : ∀ c ∈ [.set "parse" (.text "x")] ++ [.set "parse.encoding" (.text "x")], Call.IsJson c :=
    List.forall_mem_cons.mpr ⟨first, List.forall_mem_singleton.mpr second⟩
  obtain ⟨_, _, sets, _⟩ := memory_agrees_with_file made json
  obtain ⟨_, _, exact, _⟩ := sets _ _ rfl
  have reloads : ∀ c ∈ [.set "parse" (.text "x"), .set "parse.encoding" (.text "x")] ++ [.reload], Call.IsJson c :=
    List.forall_mem_append.mpr ⟨json, List.forall_mem_singleton.mpr trivial⟩
  obtain ⟨_, reload, _⟩ := memory_agrees_with_file made reloads
  refine ⟨s, l, made, done, fun agree => ?_, (reload rfl).2.2⟩
  have complete := (exact done).mp agree
  obtain ⟨v, found, group⟩ := (Option.any_eq_true _ _).mp lost
  obtain ⟨high, same, missing⟩ := (Option.any_eq_true _ _).mp group
  cases v with
  | object fields =>
    cases same
    rw [Store.get?, lookup?, keyParts_of_undotted (by decide)] at found
    have kept := complete ["parse"] _ high rfl found "diagInfoPattern" (by decide)
    rw [List.contains_iff_mem.mpr kept] at missing
    cases missing
  | _ => cases same

end Diagnosis.Settings.Store
