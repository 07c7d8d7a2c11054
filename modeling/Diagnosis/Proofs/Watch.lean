import Diagnosis.Proofs.FileTree.Standing
import Diagnosis.Proofs.Result
import Diagnosis.Proofs.Text.Sorted
import Diagnosis.Watch

/-!
# What is watched

Watching some files watches exactly those of their directories that are there, each once and
without the directories in it. What happens to a file later is told just if its path resolves to one
of them by then: as a document that has been saved, and otherwise as a changed configuration.
-/

namespace Diagnosis.Watch

open Diagnosis.Text (sorted insertSorted mem_insertSorted mem_sorted)
open Diagnosis.FileTree (Stands resolve_plain resolve_of_holds stands_root)

variable {t : FileTree} {directory paths documents configs : List String} {w : Watch}

/-! ## Files -/

/-- One of some paths resolves to a path. -/
def Named (t : FileTree) (directory paths : List String) (p : Path) : Prop :=
  ∃ path ∈ paths, t.resolve directory path = .ok p

theorem Named.plain {p : Path} (named : Named t directory paths p) : p.Plain := by
  obtain ⟨path, _, resolved⟩ := named
  exact resolve_plain resolved

theorem named_cons {path : String} {p q : Path} (resolved : t.resolve directory path = .ok p) :
    Named t directory (path :: paths) q ↔ q = p ∨ Named t directory paths q := by
  simp [Named, resolved, eq_comm]

theorem named_append {p : Path} :
    Named t directory (documents ++ configs) p ↔ Named t directory documents p ∨ Named t directory configs p := by
  simp [Named, or_and_right, exists_or]

/-- The texts of the paths that some paths resolve to have been put into a list. -/
def Listed (t : FileTree) (directory paths before after : List String) : Prop :=
  ∀ r, r ∈ after ↔ r ∈ before ∨ ∃ p, Named t directory paths p ∧ p.text = r

theorem listed_nil (before : List String) : Listed t directory [] before before := by
  simp [Listed, Named]

theorem listed_cons {path : String} {p : Path} {before after : List String} (resolved : t.resolve directory path = .ok p)
    (later : Listed t directory paths (insertSorted p.text before) after) :
    Listed t directory (path :: paths) before after := by
  intro r
  rw [later, mem_insertSorted]
  simp only [named_cons resolved, or_and_right, exists_or, exists_eq_left]
  rw [or_assoc, or_left_comm, eq_comm]

theorem Listed.append {documents' configs' : List String} (listed : Listed t directory documents [] documents')
    (listed' : Listed t directory configs [] configs') :
    Listed t directory (documents ++ configs) [] (documents' ++ configs') := by
  intro r
  rw [List.mem_append, listed, listed']
  simp only [List.not_mem_nil, false_or, named_append, or_and_right, exists_or]

/-- Whether the text of a path is in a list that was empty tells whether the path is named. -/
theorem mem_of_listed {after : List String} (listed : Listed t directory paths [] after) {p : Path} (plain : p.Plain) :
    p.text ∈ after ↔ Named t directory paths p := by
  rw [listed]
  constructor
  · rintro (before | ⟨q, named, same⟩)
    · cases before
    · rwa [← Path.text_injective named.plain plain same]
  · exact fun named => .inr ⟨p, named, rfl⟩

/-- A path resolves to something that is there. -/
def Found (t : FileTree) (directory : List String) (path : String) : Prop :=
  ∃ p, t.resolve directory path = .ok p ∧ t.holds directory p.text = true

/-- Every document that is found is put with the others. -/
theorem addDocuments_ok (w : Watch) (found : ∀ path ∈ documents, Found t directory path) :
    ∃ after, addDocuments t directory w documents = ({ w with documents := after }, none) ∧
      Listed t directory documents w.documents after := by
  induction documents generalizing w with
  | nil => exact ⟨w.documents, rfl, listed_nil _⟩
  | cons path rest ih =>
    obtain ⟨p, resolved, held⟩ := found path List.mem_cons_self
    obtain ⟨after, added, listed⟩ := ih { w with documents := insertSorted p.text w.documents }
      fun other later => found other (List.mem_cons_of_mem _ later)
    refine ⟨after, ?_, listed_cons resolved listed⟩
    rw [addDocuments, resolved]
    dsimp only
    rw [if_pos held, added]

/-- Every configuration file that resolves is put with the others. -/
theorem addConfigs_ok (w : Watch) (resolve : ∀ path ∈ configs, ∃ p, t.resolve directory path = .ok p) :
    ∃ after, addConfigs t directory w configs = ({ w with configs := after }, none) ∧
      Listed t directory configs w.configs after := by
  induction configs generalizing w with
  | nil => exact ⟨w.configs, rfl, listed_nil _⟩
  | cons path rest ih =>
    obtain ⟨p, resolved⟩ := resolve path List.mem_cons_self
    obtain ⟨after, added, listed⟩ := ih { w with configs := insertSorted p.text w.configs }
      fun other later => resolve other (List.mem_cons_of_mem _ later)
    refine ⟨after, ?_, listed_cons resolved listed⟩
    rw [addConfigs, resolved]
    exact added

/-- A configuration file that does not resolve ends it, before anything is watched. -/
theorem addConfigs_error (w : Watch) (unresolved : ∃ path ∈ configs, ∃ f, t.resolve directory path = .error f) :
    ∃ after f, addConfigs t directory w configs = ({ w with configs := after }, some f) ∧
      ∃ path ∈ configs, t.resolve directory path = .error f := by
  induction configs generalizing w with
  | nil =>
    obtain ⟨path, member, _⟩ := unresolved
    cases member
  | cons path rest ih =>
    cases resolved : t.resolve directory path with
    | error f =>
      refine ⟨w.configs, f, ?_, path, List.mem_cons_self, resolved⟩
      rw [addConfigs, resolved]
    | ok p =>
      obtain ⟨other, member, g, failed⟩ := unresolved
      have later : other ∈ rest := by
        rcases List.mem_cons.mp member with rfl | later
        · cases resolved.symm.trans failed
        · exact later
      obtain ⟨after, f, added, culprit, among, failed'⟩ :=
        ih { w with configs := insertSorted p.text w.configs } ⟨other, later, g, failed⟩
      refine ⟨after, f, ?_, culprit, List.mem_cons_of_mem _ among, failed'⟩
      rw [addConfigs, resolved]
      exact added

/-! ## Directories -/

/-- No directory is watched twice, and none with the directories in it. -/
structure Orderly (w : Watch) : Prop where
  once : w.directories.Nodup
  flat : ∀ s ∈ w.scheduled, s.recursive = false

theorem Orderly.addDirectory (orderly : Orderly w) (t : FileTree) (directory : List String) (d : String) :
    Orderly (w.addDirectory t directory d) := by
  unfold Watch.addDirectory
  split
  · rename_i new
    rw [Bool.and_eq_true, Bool.not_eq_true', List.contains_eq_mem, decide_eq_false_iff_not] at new
    constructor
    · rw [directories, List.map_append, List.nodup_append]
      refine ⟨orderly.once, by simp, fun old among added same => ?_⟩
      rw [List.mem_singleton.mp same]
      rintro rfl
      exact new.2 among
    · intro s member
      rcases List.mem_append.mp member with old | added
      · exact orderly.flat s old
      · rw [List.mem_singleton.mp added]
  · exact orderly

theorem mem_addDirectory {d added : String} :
    d ∈ (w.addDirectory t directory added).directories ↔
      d ∈ w.directories ∨ d = added ∧ t.isDirectory directory added = true := by
  unfold Watch.addDirectory
  by_cases there : t.isDirectory directory added = true
  · by_cases watched : added ∈ w.directories
    · rw [if_neg (by simp [watched])]
      constructor
      · exact .inl
      · rintro (old | ⟨rfl, _⟩)
        · exact old
        · exact watched
    · rw [if_pos (by simp [there, watched])]
      simp [directories, there]
  · rw [if_neg (by simp [there])]
    simp [there]

theorem addDirectory_frame (t : FileTree) (directory : List String) (w : Watch) (d : String) :
    ∃ scheduled, w.addDirectory t directory d = { w with scheduled } := by
  unfold Watch.addDirectory
  split
  · exact ⟨_, rfl⟩
  · exact ⟨w.scheduled, rfl⟩

/-- With directories to watch, those that are there are watched, and nothing else has changed. -/
theorem addDirectories (t : FileTree) (directory : List String) (orderly : Orderly w) (ds : List String) :
    ∃ scheduled, ds.foldl (addDirectory t directory) w = { w with scheduled } ∧ Orderly { w with scheduled } ∧
      ∀ d, d ∈ directories { w with scheduled } ↔ d ∈ w.directories ∨ d ∈ ds ∧ t.isDirectory directory d = true := by
  induction ds generalizing w with
  | nil => exact ⟨w.scheduled, rfl, orderly, fun d => by simp⟩
  | cons added rest ih =>
    obtain ⟨scheduled, more, orderly', members⟩ := ih (orderly.addDirectory t directory added)
    obtain ⟨first, frame⟩ := addDirectory_frame t directory w added
    have whole : { w.addDirectory t directory added with scheduled } = { w with scheduled } := by rw [frame]
    rw [whole] at more orderly' members
    refine ⟨scheduled, more, orderly', fun d => ?_⟩
    rw [members, mem_addDirectory, List.mem_cons]
    constructor
    · rintro ((old | ⟨rfl, there⟩) | ⟨later, there⟩)
      · exact .inl old
      · exact .inr ⟨.inl rfl, there⟩
      · exact .inr ⟨.inr later, there⟩
    · rintro (old | ⟨rfl | later, there⟩)
      · exact .inl (.inl old)
      · exact .inl (.inr ⟨rfl, there⟩)
      · exact .inr ⟨later, there⟩

/-- The directory of a file that has been taken apart is that of its parts. -/
theorem directoryOf_text {p : Path} (plain : p.Plain) : directoryOf p.text = p.parent.text := by
  rw [directoryOf, Path.ofString_text plain]

/-! ## What is watched and told -/

/-- The directories of some files are watched that are there, each once and without the directories in it. -/
structure Covers (t : FileTree) (directory paths : List String) (w : Watch) : Prop extends Orderly w where
  alive : w.alive = true
  mem_iff : ∀ d, d ∈ w.directories ↔
    t.isDirectory directory d = true ∧ ∃ p, Named t directory paths p ∧ d = p.parent.text

/-- What is called when something happens to a file. A path that does not resolve is an error, and
nothing is called. -/
def calls (w : Watch) (t : FileTree) (directory : List String) (isDirectory : Bool) (e : FileEvent) : List Change :=
  match w.changeOf t directory isDirectory e with
  | .ok c => c.toList
  | .error _ => []

/-- What happens to a file in any tree later on is told: whether the path leads to a document or to a
configuration file by then, and nothing about directories and all others. -/
structure Tells (documents configs : Path → Prop) (w : Watch) : Prop where
  folder : ∀ t directory e, w.calls t directory true e = []
  document : ∀ t directory e p, FileTree.resolve t directory e.path = .ok p → documents p →
    w.calls t directory false e = [.saved p.text]
  config : ∀ t directory e p, FileTree.resolve t directory e.path = .ok p → ¬ documents p → configs p →
    w.calls t directory false e = [.configured p.text]
  other : ∀ t directory e p, FileTree.resolve t directory e.path = .ok p → ¬ documents p → ¬ configs p →
    w.calls t directory false e = []
  unresolved : ∀ t directory e f, FileTree.resolve t directory e.path = .error f → w.calls t directory false e = []

theorem calls_resolved {e : FileEvent} {p : Path} (resolved : t.resolve directory e.path = .ok p) :
    w.calls t directory false e = (w.changeAt p.text).toList := by
  unfold calls changeOf
  rw [if_neg Bool.false_ne_true, resolved]
  rfl

theorem tells_of_listed {documents configs : Path → Prop} (saved : ∀ p : Path, p.Plain → (p.text ∈ w.documents ↔ documents p))
    (configured : ∀ p : Path, p.Plain → (p.text ∈ w.configs ↔ configs p)) : Tells documents configs w where
  folder _ _ _ := rfl
  document t directory e p resolved document := by
    rw [calls_resolved resolved, changeAt, if_pos]
    · rfl
    · rw [List.contains_iff_mem]
      exact (saved p (resolve_plain resolved)).mpr document
  config t directory e p resolved noDocument config := by
    rw [calls_resolved resolved, changeAt, if_neg, if_pos]
    · rfl
    · rw [List.contains_iff_mem]
      exact (configured p (resolve_plain resolved)).mpr config
    · rw [List.contains_iff_mem]
      exact fun member => noDocument ((saved p (resolve_plain resolved)).mp member)
  other t directory e p resolved noDocument noConfig := by
    rw [calls_resolved resolved, changeAt, if_neg, if_neg]
    · rfl
    · rw [List.contains_iff_mem]
      exact fun member => noConfig ((configured p (resolve_plain resolved)).mp member)
    · rw [List.contains_iff_mem]
      exact fun member => noDocument ((saved p (resolve_plain resolved)).mp member)
  unresolved t directory e f failed := by
    unfold calls changeOf
    rw [if_neg Bool.false_ne_true, failed]
    rfl

/-- A watch that has been started on files that are found and configuration files that resolve. -/
theorem start_ok (found : ∀ path ∈ documents, Found t directory path)
    (resolve : ∀ path ∈ configs, ∃ p, t.resolve directory path = .ok p) :
    ∃ w, start {} t directory documents configs = (w, none) ∧ Covers t directory (documents ++ configs) w ∧
      Tells (Named t directory documents) (Named t directory configs) w := by
  obtain ⟨ds, addedDocuments, listedDocuments⟩ := addDocuments_ok {} found
  obtain ⟨cs, addedConfigs, listedConfigs⟩ := addConfigs_ok { ({} : Watch) with documents := ds } resolve
  have orderly : Orderly { ({} : Watch) with documents := ds, configs := cs } := ⟨List.nodup_nil, nofun⟩
  obtain ⟨scheduled, added, orderly', members⟩ :=
    addDirectories t directory orderly ((sorted (ds ++ cs)).map directoryOf)
  refine ⟨{ documents := ds, configs := cs, scheduled, alive := true }, ?_, ?_, ?_⟩
  · unfold start
    rw [addedDocuments]
    dsimp only
    rw [addedConfigs]
    dsimp only
    rw [added]
  · refine ⟨⟨orderly'.once, orderly'.flat⟩, rfl, fun d => ?_⟩
    have listed := listedDocuments.append listedConfigs
    have files : (∃ r, r ∈ sorted (ds ++ cs) ∧ directoryOf r = d) ↔
        ∃ p, Named t directory (documents ++ configs) p ∧ d = p.parent.text := by
      constructor
      · rintro ⟨r, member, rfl⟩
        obtain before | ⟨p, named, rfl⟩ := (listed r).mp (mem_sorted.mp member)
        · cases before
        · exact ⟨p, named, directoryOf_text named.plain⟩
      · rintro ⟨p, named, rfl⟩
        exact ⟨p.text, mem_sorted.mpr ((listed p.text).mpr (.inr ⟨p, named, rfl⟩)), directoryOf_text named.plain⟩
    rw [← files, ← List.mem_map, and_comm]
    refine (members d).trans ⟨?_, .inr⟩
    rintro (before | new)
    · cases before
    · exact new
  · exact tells_of_listed (fun p plain => mem_of_listed listedDocuments plain)
      fun p plain => mem_of_listed listedConfigs plain

/-- A configuration file that does not resolve is an error, and nothing is watched. -/
theorem start_error (found : ∀ path ∈ documents, Found t directory path)
    (unresolved : ∃ path ∈ configs, ∃ f, t.resolve directory path = .error f) :
    ∃ w f, start {} t directory documents configs = (w, some f) ∧ w.scheduled = [] ∧ w.alive = false ∧
      ∃ path ∈ configs, t.resolve directory path = .error f := by
  obtain ⟨ds, addedDocuments, _⟩ := addDocuments_ok {} found
  obtain ⟨cs, f, failed, culprit⟩ := addConfigs_error { ({} : Watch) with documents := ds } unresolved
  refine ⟨{ documents := ds, configs := cs }, f, ?_, rfl, rfl, culprit⟩
  unfold start
  rw [addedDocuments]
  dsimp only
  rw [failed]

/-- From a working directory that is there, watching documents that are there and configuration files
that resolve covers exactly their directories, and tells exactly what happens to them. If a
configuration file does not resolve, that is an error, and nothing is watched. -/
theorem watch_exact (there : Stands t directory .directory)
    (existing : ∀ path ∈ documents, '\x00' ∉ path.toList ∧ t.holds directory path = true) :
    ((∀ path ∈ configs, ∃ p, t.resolve directory path = .ok p) →
      ∃ w, start {} t directory documents configs = (w, none) ∧ Covers t directory (documents ++ configs) w ∧
        Tells (Named t directory documents) (Named t directory configs) w) ∧
    ((∃ path ∈ configs, ∃ f, t.resolve directory path = .error f) →
      ∃ w f, start {} t directory documents configs = (w, some f) ∧ w.scheduled = [] ∧ w.alive = false ∧
        ∃ path ∈ configs, t.resolve directory path = .error f) := by
  have found : ∀ path ∈ documents, Found t directory path :=
    fun path member => resolve_of_holds there (existing path member).1 (existing path member).2
  exact ⟨start_ok found, start_error found⟩

/-- A tree with a file that there is a link to, in a directory of its own. -/
def sharedTree : FileTree :=
  ⟨[(["w"], .directory), (["w", "a.c"], .file [10]), (["w", "src"], .directory), (["w", "src", "b.c"], .file []),
    (["w", "l"], .link "src/b.c")]⟩

/-- A tree with a link to itself. -/
def loopingTree : FileTree := ⟨[(["w"], .directory), (["w", "a.c"], .file []), (["w", "l"], .link "l")]⟩

instance (t : FileTree) (directory paths : List String) (p : Path) : Decidable (Named t directory paths p) :=
  inferInstanceAs (Decidable (∃ path ∈ paths, t.resolve directory path = .ok p))

/-- Documents that are named twice, one of them by a link, and configuration files of which one is such a
document and another one is in a directory that is not there; and a configuration file that is a link to
itself. -/
theorem watch_exact_shared :
    (∃ w, start {} sharedTree ["w"] ["a.c", "l", "/w/src/b.c"] ["src/b.c", "etc/c.json", "c.json"] = (w, none) ∧
      Covers sharedTree ["w"] ["a.c", "l", "/w/src/b.c", "src/b.c", "etc/c.json", "c.json"] w ∧
      w.scheduled = [⟨"/w", false⟩, ⟨"/w/src", false⟩] ∧
      w.calls sharedTree ["w"] false (.modified "/w/l") = [.saved "/w/src/b.c"] ∧
      w.calls sharedTree ["w"] false (.created "/w/c.json") = [.configured "/w/c.json"] ∧
      w.calls sharedTree ["w"] false (.moved "/w/a.c" "/w/z.c") = []) ∧
    ∃ w f, start {} loopingTree ["w"] ["/w/a.c"] ["/w/l"] = (w, some f) ∧ w.scheduled = [] := by
  constructor
  · have existing : ∀ path ∈ ["a.c", "l", "/w/src/b.c"],
        '\x00' ∉ path.toList ∧ sharedTree.holds ["w"] path = true := by
      decide +kernel
    have checked : ∀ path ∈ ["src/b.c", "etc/c.json", "c.json"],
        (sharedTree.resolve ["w"] path).toOption.any (fun _ => true) = true := by
      decide +kernel
    have resolve : ∀ path ∈ ["src/b.c", "etc/c.json", "c.json"], ∃ p, sharedTree.resolve ["w"] path = .ok p := by
      intro path member
      obtain ⟨p, resolved, _⟩ := exists_ok_of_any (checked path member)
      exact ⟨p, resolved⟩
    have there : Stands sharedTree ["w"] .directory := (stands_root sharedTree).child (by decide) (by decide)
    obtain ⟨w, started, covers, tells⟩ := (watch_exact there existing).1 resolve
    have scheduled : (start {} sharedTree ["w"] ["a.c", "l", "/w/src/b.c"] ["src/b.c", "etc/c.json", "c.json"]).1.scheduled =
        [⟨"/w", false⟩, ⟨"/w/src", false⟩] := by
      decide +kernel
    rw [started] at scheduled
    refine ⟨w, started, covers, scheduled, ?_, ?_, ?_⟩
    · exact tells.document _ _ (.modified "/w/l") ⟨"/", ["w", "src", "b.c"]⟩ (by decide +kernel) (by decide +kernel)
    · exact tells.config _ _ (.created "/w/c.json") ⟨"/", ["w", "c.json"]⟩ (by decide +kernel) (by decide +kernel)
        (by decide +kernel)
    · exact tells.other _ _ (.moved "/w/a.c" "/w/z.c") ⟨"/", ["w", "z.c"]⟩ (by decide +kernel) (by decide +kernel)
        (by decide +kernel)
  · have existing : ∀ path ∈ ["/w/a.c"], '\x00' ∉ path.toList ∧ loopingTree.holds ["w"] path = true := by
      decide +kernel
    have there : Stands loopingTree ["w"] .directory := (stands_root loopingTree).child (by decide) (by decide)
    obtain ⟨w, f, started, nothing, _⟩ := (watch_exact there existing).2
      ⟨"/w/l", List.mem_singleton_self _, .runtime "Symlink loop from '/w/l'", by decide +kernel⟩
    exact ⟨w, f, started, nothing⟩

/-- A configuration file that is a link to itself keeps the directory of a document that is there from being
watched. -/
theorem start_looping_link :
    loopingTree.holds ["w"] "/w/a.c" = true ∧
    (start {} loopingTree ["w"] ["/w/a.c"] ["/w/l"]).2 = some (.runtime "Symlink loop from '/w/l'") ∧
    ¬ ∀ d, d ∈ (start {} loopingTree ["w"] ["/w/a.c"] ["/w/l"]).1.directories ↔
      loopingTree.isDirectory ["w"] d = true ∧ ∃ p, Named loopingTree ["w"] ["/w/a.c", "/w/l"] p ∧ d = p.parent.text := by
  refine ⟨by decide +kernel, by decide +kernel, fun covered => ?_⟩
  have watched : "/w" ∈ (start {} loopingTree ["w"] ["/w/a.c"] ["/w/l"]).1.directories :=
    (covered "/w").mpr ⟨by decide +kernel, ⟨"/", ["w", "a.c"]⟩, by decide +kernel, by decide +kernel⟩
  have nothing : (start {} loopingTree ["w"] ["/w/a.c"] ["/w/l"]).1.directories = [] := by decide +kernel
  rw [nothing] at watched
  cases watched

end Diagnosis.Watch
