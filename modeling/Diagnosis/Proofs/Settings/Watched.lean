import Mathlib.Data.List.Infix
import Diagnosis.Proofs.FileTree.Resolve
import Diagnosis.Settings.Store

/-!
# Watched files

The files that settings come from, and which of them are watched. For the directory of
a document these are the user's own file, the file of the directory and the file of the
workspace root, so that the folders between the root and the directory are missed.
-/

namespace Diagnosis

/-! ## Paths of folders and of files in them -/

namespace Path

theorem child_injective {p q : Path} {part : String} (same : p.child part = q.child part) : p = q := by
  cases p
  cases q
  simpa [child] using same

/-- The text of a path ends with its last part. -/
theorem suffix_text_child (p : Path) (part : String) : part.toList <:+ (p.child part).text.toList := by
  have some_part : (p.child part).parts ≠ [] := by simp [child]
  have ends (parts : List (List Char)) : part.toList <:+ ['/'].intercalate (parts ++ [part.toList]) := by
    induction parts with
    | nil =>
      rw [List.nil_append, List.intercalate_singleton]
    | cons first rest ih =>
      obtain ⟨second, more, whole⟩ : ∃ second more, rest ++ [part.toList] = second :: more :=
        List.exists_cons_of_ne_nil (by simp)
      rw [whole] at ih
      rw [List.cons_append, whole, List.intercalate_cons_cons]
      exact ih.trans (List.suffix_append ..)
  rw [toList_text some_part]
  refine List.IsSuffix.trans ?_ (List.suffix_append ..)
  rw [child, List.map_append]
  exact ends _

end Path

theorem FileTree.isFile_eq (t : FileTree) (directory : List String) (path : String) :
    t.isFile directory path = (t.read directory path).toOption.isSome := by
  unfold isFile find? read
  rcases t.locate true directory path with fault | ⟨place, _ | e⟩
  · rfl
  · rfl
  · cases e <;> rfl

namespace Settings.Store

/-- The file of a folder. -/
def folderFile (p : Path) : String := (p.child folderFileName).text

/-- Every file that settings of documents in a directory come from, those that are missing too. -/
def sources (s : Store) (inner : Path) : List String :=
  s.file :: (foldersFor s.workspace inner).map folderFile

/-- The workspace of a store, if it has one, is a path that has been taken apart. -/
def Rooted (s : Store) : Prop := ∀ root, s.workspace = some root → root.Plain

variable {s : Store} {t : FileTree} {directory directories files : List String} {inner p q : Path}

/-- The workspace of a new store is where the given one leads to. -/
theorem create_workspace {folder : Path} {workspace : Option String} {l : Loaded}
    (made : create t directory folder workspace = .ok (s, l)) :
    workspaceOf workspace = none ∧ s.workspace = none ∨
      ∃ w root, workspaceOf workspace = some w ∧ t.resolve directory w = .ok root ∧ s.workspace = some root := by
  unfold create at made
  simp only [bind, Except.bind] at made
  split at made
  · rename_i w given
    cases led : t.resolve directory w with
    | error e =>
      rw [led] at made
      cases made
    | ok p =>
      rw [led] at made
      dsimp only [Except.map] at made
      split at made
      · cases made
      · cases made
        exact .inr ⟨w, p, given, led, rfl⟩
  · rename_i none_given
    split at made
    · cases made
    · cases made
      exact .inl ⟨none_given, rfl⟩

theorem create_rooted {folder : Path} {workspace : Option String} {l : Loaded}
    (made : create t directory folder workspace = .ok (s, l)) : s.Rooted := by
  intro root found
  rcases create_workspace made with ⟨_, absent⟩ | ⟨_, _, _, led, leads⟩
  · rw [absent] at found
    cases found
  · cases leads.symm.trans found
    exact FileTree.resolve_plain led

theorem folderFile_injective (plain : p.Plain) (plainToo : q.Plain) (same : folderFile p = folderFile q) : p = q := by
  have named : '/' ∉ folderFileName.toList ∧ folderFileName.toList ≠ [] ∧ folderFileName.toList ≠ ['.'] := by decide
  exact Path.child_injective (Path.text_injective (plain.child named) (plainToo.child named) same)

/-- No folder's file is the user's own file. -/
theorem folderFile_ne_file (q : Path) (s : Store) : folderFile q ≠ s.file := by
  intro same
  have folder : folderFileName.toList <:+ s.file.toList := same ▸ q.suffix_text_child folderFileName
  have own : ("config.json" : String).toList <:+ s.file.toList := s.folder.suffix_text_child "config.json"
  have ends : ("config.json" : String).toList <:+ folderFileName.toList :=
    List.suffix_of_suffix_length_le own folder (by decide)
  revert ends
  decide

/-! ## The folders whose files count -/

theorem foldersFor_plain {workspace : Option Path} (plain : inner.Plain) (counts : q ∈ foldersFor workspace inner) :
    q.Plain := by
  unfold foldersFor at counts
  split at counts
  · rwa [List.mem_singleton.mp counts]
  · split at counts
    · obtain ⟨n, _, rfl⟩ := List.mem_map.mp counts
      exact plain.take _
    · rwa [List.mem_singleton.mp counts]

/-- The root and the directory are all the folders whose files count, unless the directory is two or
more folders below the root. -/
theorem foldersFor_ends_iff (workspace : Option Path) (inner : Path) :
    (∀ q ∈ foldersFor workspace inner, workspace = some q ∨ q = inner) ↔
      ∀ root, workspace = some root → root.root = inner.root → root.parts <+: inner.parts →
        inner.parts.length ≤ root.parts.length + 1 := by
  cases workspace with
  | none =>
    refine ⟨fun _ _ absent => (nomatch absent), fun _ q counts => .inr ?_⟩
    exact List.mem_singleton.mp counts
  | some root =>
    by_cases below : root.root = inner.root ∧ root.parts <+: inner.parts
    · have counts (q : Path) : q ∈ foldersFor (some root) inner ↔
          ∃ n < inner.parts.length + 1 - root.parts.length,
            { inner with parts := inner.parts.take (root.parts.length + n) } = q := by
        simp only [foldersFor, if_pos below, List.mem_map, List.mem_range]
      constructor
      · intro ends other same _ _
        cases same
        by_contra deep
        rcases ends _ ((counts _).mpr ⟨1, by omega, rfl⟩) with top | bottom
        · have lengths := congrArg (·.parts.length) (Option.some.inj top)
          rw [List.length_take] at lengths
          omega
        · have lengths := congrArg (·.parts.length) bottom
          rw [List.length_take] at lengths
          omega
      · intro shallow q member
        have near := shallow root rfl below.1 below.2
        obtain ⟨n, fits, rfl⟩ := (counts q).mp member
        rcases Nat.eq_zero_or_pos n with rfl | deeper
        · left
          rw [Nat.add_zero, ← List.prefix_iff_eq_take.mp below.2, ← below.1]
        · right
          rw [List.take_of_length_le (by omega)]
    · have alone : foldersFor (some root) inner = [inner] := by
        simp only [foldersFor, if_neg below]
      rw [alone]
      refine ⟨fun _ other same roots parts => ?_, fun _ q counts => .inr (List.mem_singleton.mp counts)⟩
      cases same
      exact absurd ⟨roots, parts⟩ below

/-! ## What is watched -/

theorem mem_resolved_iff {folders : List Path}
    (resolved : directories.mapM (fun d => t.resolve directory d) = .ok folders) :
    q ∈ folders ↔ ∃ d ∈ directories, t.resolve directory d = .ok q := by
  induction directories generalizing folders with
  | nil =>
    cases resolved
    simp
  | cons first rest ih =>
    rw [List.mapM_cons] at resolved
    cases led : t.resolve directory first with
    | error e =>
      rw [led] at resolved
      cases resolved
    | ok p =>
      cases later : rest.mapM (fun d => t.resolve directory d) with
      | error e =>
        rw [led, later] at resolved
        cases resolved
      | ok others =>
        rw [led, later] at resolved
        cases resolved
        simp [ih later, led, eq_comm]

theorem watched_eq (given : s.watched t directory directories = .ok files) :
    ∃ folders, directories.mapM (fun d => t.resolve directory d) = .ok folders ∧
      files = s.file :: (folders ++ s.workspace.toList).map folderFile := by
  unfold watched at given
  cases resolved : directories.mapM fun d => t.resolve directory d with
  | error e =>
    rw [resolved] at given
    cases given
  | ok folders =>
    rw [resolved] at given
    cases given
    exact ⟨folders, rfl, rfl⟩

/-- A folder's file is watched if the folder is the root or one of the directories leads to it. -/
theorem folderFile_mem_watched_iff (rooted : s.Rooted) (plain : q.Plain)
    (given : s.watched t directory directories = .ok files) :
    folderFile q ∈ files ↔ s.workspace = some q ∨ ∃ d ∈ directories, t.resolve directory d = .ok q := by
  obtain ⟨folders, resolved, rfl⟩ := watched_eq given
  constructor
  · intro member
    rcases List.mem_cons.mp member with own | listed
    · exact absurd own (folderFile_ne_file q s)
    · obtain ⟨r, among, same⟩ := List.mem_map.mp listed
      rcases List.mem_append.mp among with led | root
      · obtain ⟨d, given, leads⟩ := (mem_resolved_iff resolved).mp led
        rw [← folderFile_injective (FileTree.resolve_plain leads) plain same]
        exact .inr ⟨d, given, leads⟩
      · have found := Option.mem_toList.mp root
        rw [← folderFile_injective (rooted r found) plain same]
        exact .inl found
  · rintro (root | leads)
    · refine List.mem_cons_of_mem _ (List.mem_map_of_mem (List.mem_append_right _ ?_))
      exact Option.mem_toList.mpr root
    · refine List.mem_cons_of_mem _ (List.mem_map_of_mem (List.mem_append_left _ ?_))
      exact (mem_resolved_iff resolved).mpr leads

theorem file_mem_watched (given : s.watched t directory directories = .ok files) : s.file ∈ files := by
  obtain ⟨_, _, rfl⟩ := watched_eq given
  exact List.mem_cons_self

/-- A directory that resolves to itself makes all its sources watched if and only if no folder counts
but it and the root. -/
theorem sources_watched_iff (rooted : s.Rooted) (plain : inner.Plain)
    (itself : t.resolve directory inner.text = .ok inner) (given : s.watched t directory [inner.text] = .ok files) :
    (∀ file ∈ s.sources inner, file ∈ files) ↔
      ∀ q ∈ foldersFor s.workspace inner, s.workspace = some q ∨ q = inner := by
  have watched : ∀ q ∈ foldersFor s.workspace inner, (folderFile q ∈ files ↔ s.workspace = some q ∨ q = inner) := by
    intro q counts
    rw [folderFile_mem_watched_iff rooted (foldersFor_plain plain counts) given]
    simp [itself, eq_comm]
  constructor
  · intro covered q counts
    exact (watched q counts).mp (covered _ (List.mem_cons_of_mem _ (List.mem_map_of_mem counts)))
  · intro near file source
    rcases List.mem_cons.mp source with same | folder
    · rw [same]
      exact file_mem_watched given
    · obtain ⟨q, counts, rfl⟩ := List.mem_map.mp folder
      exact (watched q counts).mpr (near q counts)

/-! ## What settings depend on -/

section

variable {t' : FileTree} {document : String}

theorem stack_congr {paths : List String} (same : ∀ path ∈ paths, t'.read directory path = t.read directory path)
    (fields : Json.Fields) : stack t' directory fields paths = stack t directory fields paths := by
  induction paths generalizing fields with
  | nil => rfl
  | cons path rest ih =>
    have layer : loadLayer t' directory path = loadLayer t directory path := by
      rw [loadLayer, loadLayer, same path List.mem_cons_self]
    rw [stack, stack, layer]
    split
    · rfl
    · exact ih (fun other later => same other (List.mem_cons_of_mem _ later)) _

theorem folderFiles_eq (resolved : t.resolve directory document = .ok p) :
    s.folderFiles t directory document =
      .ok (((foldersFor s.workspace p.parent).map folderFile).filter (t.isFile directory)) := by
  rw [folderFiles, directoryOf, resolved]
  rfl

/-- The settings of a document depend on what the files of the folders that count for its directory
hold. Where there is no file, it does not matter why. -/
theorem settingsFor_contents (resolved : t.resolve directory document = .ok p)
    (resolvedToo : t'.resolve directory document = .ok p)
    (same : ∀ q ∈ foldersFor s.workspace p.parent,
      (t'.read directory (folderFile q)).toOption = (t.read directory (folderFile q)).toOption) :
    s.settingsFor t' directory document = s.settingsFor t directory document := by
  have alike : ∀ path ∈ (foldersFor s.workspace p.parent).map folderFile,
      (t'.read directory path).toOption = (t.read directory path).toOption := by
    intro path member
    obtain ⟨q, counts, rfl⟩ := List.mem_map.mp member
    exact same q counts
  have present : ((foldersFor s.workspace p.parent).map folderFile).filter (t'.isFile directory) =
      ((foldersFor s.workspace p.parent).map folderFile).filter (t.isFile directory) :=
    List.filter_congr fun path member => by
      rw [FileTree.isFile_eq, FileTree.isFile_eq, alike path member]
  have layers : stack t' directory s.fields (((foldersFor s.workspace p.parent).map folderFile).filter (t.isFile directory)) =
      stack t directory s.fields (((foldersFor s.workspace p.parent).map folderFile).filter (t.isFile directory)) := by
    refine stack_congr (fun path member => ?_) s.fields
    obtain ⟨counts, there⟩ := List.mem_filter.mp member
    have both := alike path counts
    rw [FileTree.isFile_eq] at there
    -- a file that is there can be read in both trees
    cases read : t.read directory path with
    | error e =>
      rw [read] at there
      cases there
    | ok bytes =>
      rw [read] at both
      cases read' : t'.read directory path with
      | error e =>
        rw [read'] at both
        cases both
      | ok bytes' =>
        rw [read'] at both
        rw [Option.some.inj both]
  unfold settingsFor
  rw [folderFiles_eq resolved, folderFiles_eq resolvedToo, present]
  simp only [bind, Except.bind]
  rw [layers]

/-- In a tree, the settings of a document depend on the files of the folders that count for its
directory and on nothing else. -/
theorem settingsFor_congr (resolved : t.resolve directory document = .ok p)
    (resolvedToo : t'.resolve directory document = .ok p)
    (same : ∀ q ∈ foldersFor s.workspace p.parent,
      t'.read directory (folderFile q) = t.read directory (folderFile q)) :
    s.settingsFor t' directory document = s.settingsFor t directory document :=
  settingsFor_contents resolved resolvedToo fun q counts => by rw [same q counts]

/-- Over the user's own, the settings of a document come from those files of the folders that count
for its directory that are there, whatever else the tree holds. Of these files the user's own is
watched, and a folder's if and only if the folder is the workspace root or what one of the directories
given leads to. So the document's directory alone makes all of them watched if and only if it is not
two or more folders below the root. -/
theorem watched_covers_iff (rooted : s.Rooted) (resolved : t.resolve directory document = .ok p) :
    (∀ t' : FileTree, t'.resolve directory document = .ok p →
      s.folderFiles t' directory document =
        .ok (((foldersFor s.workspace p.parent).map folderFile).filter (t'.isFile directory)) ∧
      ((∀ q ∈ foldersFor s.workspace p.parent,
          t'.read directory (folderFile q) = t.read directory (folderFile q)) →
        s.settingsFor t' directory document = s.settingsFor t directory document)) ∧
    (∀ directories files, s.watched t directory directories = .ok files →
      s.file ∈ files ∧ ∀ q ∈ foldersFor s.workspace p.parent,
        (folderFile q ∈ files ↔ s.workspace = some q ∨ ∃ d ∈ directories, t.resolve directory d = .ok q)) ∧
    (p.root = "/" → t.Direct p.parts → '\x00' ∉ p.parent.text.toList →
      ∃ files, s.watched t directory [p.parent.text] = .ok files ∧
        ((∀ file ∈ s.sources p.parent, file ∈ files) ↔
          ∀ root, s.workspace = some root → root.root = "/" → root.parts <+: p.parent.parts →
            p.parent.parts.length ≤ root.parts.length + 1)) := by
  have plain : p.parent.Plain := (FileTree.resolve_plain resolved).parent
  refine ⟨fun t' resolvedToo => ⟨folderFiles_eq resolvedToo, settingsFor_congr resolved resolvedToo⟩,
    fun directories files given => ⟨file_mem_watched given, fun q counts => ?_⟩, fun single direct clean => ?_⟩
  · exact folderFile_mem_watched_iff rooted (foldersFor_plain plain counts) given
  · have parent : p.parent = ⟨"/", p.parts.dropLast⟩ := by rw [Path.parent, single]
    have itself : t.resolve directory p.parent.text = .ok p.parent := by
      rw [parent] at clean ⊢
      exact FileTree.resolve_textOf direct.dropLast clean directory
    have given : s.watched t directory [p.parent.text] =
        .ok (s.file :: ([p.parent] ++ s.workspace.toList).map folderFile) := by
      simp only [watched, List.mapM_cons, List.mapM_nil, itself]
      rfl
    have ends := foldersFor_ends_iff s.workspace p.parent
    rw [show p.parent.root = "/" from single] at ends
    exact ⟨_, given, (sources_watched_iff rooted plain itself given).trans ends⟩

/-- A workspace with a document two folders below its root, which a link leads to as well. -/
def nestedTree : FileTree where
  entries := [(["home"], .directory), (["w"], .directory), (["w", "a"], .directory), (["w", "a", "b"], .directory),
    (["w", "a", "b", "x.c"], .file []), (["l"], .link "w/a/b")]

theorem nestedTree_direct : nestedTree.Direct ["w", "a", "b", "x.c"] where
  named := by decide
  unlinked front start target := by
    rw [← List.mem_inits] at start
    simp only [List.inits, List.map_cons, List.map_nil, List.mem_cons, List.not_mem_nil, or_false] at start
    rcases start with rfl | rfl | rfl | rfl | rfl <;> rintro ⟨⟩

/-- The file of the folder between the root and the document is not watched. -/
theorem watched_covers_iff_nested :
    ∃ s l files, create nestedTree [] ⟨"/", ["home"]⟩ (some "/w") = .ok (s, l) ∧
      nestedTree.resolve [] "/l/x.c" = .ok ⟨"/", ["w", "a", "b", "x.c"]⟩ ∧
      s.watched nestedTree [] ["/w/a/b"] = .ok files ∧
      folderFile ⟨"/", ["w", "a"]⟩ ∈ s.sources ⟨"/", ["w", "a", "b"]⟩ ∧ folderFile ⟨"/", ["w", "a"]⟩ ∉ files := by
  have checked : (create nestedTree [] ⟨"/", ["home"]⟩ (some "/w")).toOption.any (fun made =>
      made.1.workspace = some ⟨"/", ["w"]⟩) = true := by
    decide +kernel
  have resolved : nestedTree.resolve [] "/l/x.c" = .ok ⟨"/", ["w", "a", "b", "x.c"]⟩ := by decide +kernel
  cases made : create nestedTree [] ⟨"/", ["home"]⟩ (some "/w") with
  | error f =>
    rw [made] at checked
    cases checked
  | ok found =>
    obtain ⟨s, l⟩ := found
    rw [made] at checked
    have root : s.workspace = some ⟨"/", ["w"]⟩ := of_decide_eq_true checked
    obtain ⟨_, covers, alone⟩ := watched_covers_iff (create_rooted made) resolved
    obtain ⟨files, given, _⟩ := alone rfl nestedTree_direct (by decide)
    have counts : (⟨"/", ["w", "a"]⟩ : Path) ∈ foldersFor s.workspace ⟨"/", ["w", "a", "b"]⟩ := by
      rw [root]
      decide
    refine ⟨s, l, files, rfl, resolved, given, List.mem_cons_of_mem _ (List.mem_map_of_mem counts), ?_⟩
    rw [(covers _ _ given).2 _ counts]
    rintro (top | ⟨d, member, leads⟩)
    · rw [root] at top
      revert top
      decide
    · have itself : nestedTree.resolve [] "/w/a/b" = .ok ⟨"/", ["w", "a", "b"]⟩ := by decide +kernel
      rw [List.mem_singleton.mp member] at leads
      cases itself.symm.trans leads

end

end Settings.Store

end Diagnosis
