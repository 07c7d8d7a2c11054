import Mathlib.Data.List.Infix
import Mathlib.Data.List.Nodup
import Diagnosis.Proofs.Result
import Diagnosis.Proofs.Settings.Watched

/-!
# Folders whose files count

The directories whose files count for a document are found by going up from the document's
own directory to the workspace root. They are the root and everything between it and the
document, the outermost first; what lies above the root or beside it does not count.
-/

namespace Diagnosis

namespace Path

/-- A path is another one or a directory above it. -/
def Above (a p : Path) : Prop := a.root = p.root ∧ a.parts <+: p.parts

instance (a p : Path) : Decidable (a.Above p) := inferInstanceAs (Decidable (_ ∧ _))

/-- A path and the directories above it, the innermost first. -/
def lineage (p : Path) : List Path := (p.parts.inits.map fun parts => { p with parts }).reverse

variable {a p q : Path}

theorem mem_lineage_iff : a ∈ p.lineage ↔ a.Above p := by
  simp only [lineage, List.mem_reverse, List.mem_map, List.mem_inits, Above]
  constructor
  · rintro ⟨parts, start, rfl⟩
    exact ⟨rfl, start⟩
  · rintro ⟨root, start⟩
    exact ⟨a.parts, start, by rw [← root]⟩

theorem length_lineage (p : Path) : p.lineage.length = p.parts.length + 1 := by
  simp [lineage]

theorem getElem_lineage (p : Path) {n : Nat} (inside : n < p.lineage.length) :
    p.lineage[n] = { p with parts := p.parts.take (p.parts.length - n) } := by
  simp [lineage]

/-- Going up, every directory is shorter than the one before. -/
theorem lineage_shortens (p : Path) : p.lineage.Pairwise fun a b => b.parts.length < a.parts.length := by
  rw [List.pairwise_iff_getElem]
  intro i j first second before
  rw [length_lineage] at first second
  simp only [getElem_lineage, List.length_take]
  omega

theorem nodup_lineage (p : Path) : p.lineage.Nodup :=
  p.lineage_shortens.imp fun shorter same => absurd shorter (by rw [same]; exact Nat.lt_irrefl _)

/-- A directory is found as many steps above a path as its parts are fewer. -/
theorem idxOf?_lineage (above : a.Above p) : p.lineage.idxOf? a = some (p.parts.length - a.parts.length) := by
  have fewer := above.2.length_le
  have inside : p.parts.length - a.parts.length < p.lineage.length := by
    rw [length_lineage]
    omega
  have there : p.lineage[p.parts.length - a.parts.length] = a := by
    rw [getElem_lineage, Nat.sub_sub_self fewer, ← List.prefix_iff_eq_take.mp above.2, ← above.1]
  rw [List.idxOf?_eq_some_iff]
  refine ⟨inside, by rw [there], fun j before same => ?_⟩
  have unique := p.nodup_lineage.getElem_inj_iff.mp (same.trans there.symm)
  omega

end Path

namespace Settings.Store

variable {workspace : Option Path} {root inner q : Path}

/-- A folder's file counts for the documents of a directory: it lies between the workspace root and
the directory, or is the directory itself where that is not the root or below it. -/
def Counts (workspace : Option Path) (inner q : Path) : Prop :=
  (∃ root, workspace = some root ∧ root.Above inner ∧ root.Above q ∧ q.Above inner) ∨
    ((∀ root, workspace = some root → ¬ root.Above inner) ∧ q = inner)

/-! ## Up to the root and no further -/

theorem foldersFor_of_above (above : root.Above inner) :
    foldersFor (some root) inner = (List.range (inner.parts.length + 1 - root.parts.length)).map fun n =>
      { inner with parts := inner.parts.take (root.parts.length + n) } := by
  have below : root.root = inner.root ∧ root.parts <+: inner.parts := above
  rw [foldersFor, if_pos below]

theorem foldersFor_of_not_above (beside : ¬ root.Above inner) : foldersFor (some root) inner = [inner] := by
  have elsewhere : ¬ (root.root = inner.root ∧ root.parts <+: inner.parts) := beside
  rw [foldersFor, if_neg elsewhere]

/-- What counts for a directory below the root is the way up to the root, turned round. -/
theorem foldersFor_eq_lineage (above : root.Above inner) :
    foldersFor (some root) inner = (inner.lineage.take (inner.parts.length - root.parts.length + 1)).reverse := by
  have fewer := above.2.length_le
  rw [foldersFor_of_above above]
  apply List.ext_getElem
  · simp only [List.length_map, List.length_range, List.length_reverse, List.length_take, Path.length_lineage]
    omega
  · intro n first second
    simp only [List.length_map, List.length_range] at first
    simp only [List.getElem_map, List.getElem_range, List.getElem_reverse, List.getElem_take, Path.getElem_lineage,
      List.length_take, Path.length_lineage]
    congr 2
    omega

theorem mem_foldersFor_iff : q ∈ foldersFor workspace inner ↔ Counts workspace inner q := by
  cases workspace with
  | none => simp [foldersFor, Counts]
  | some root =>
    by_cases above : root.Above inner
    · have fewer := above.2.length_le
      have counts : Counts (some root) inner q ↔ root.Above q ∧ q.Above inner := by
        simp [Counts, above]
      rw [counts, foldersFor_of_above above]
      simp only [List.mem_map, List.mem_range]
      constructor
      · rintro ⟨n, few, rfl⟩
        refine ⟨⟨above.1, ?_⟩, rfl, List.take_prefix _ _⟩
        rw [List.prefix_take_iff]
        exact ⟨above.2, by omega⟩
      · rintro ⟨below, start⟩
        have deeper := below.2.length_le
        have shorter := start.2.length_le
        refine ⟨q.parts.length - root.parts.length, by omega, ?_⟩
        rw [Nat.add_sub_cancel' deeper, ← List.prefix_iff_eq_take.mp start.2, ← start.1]
    · rw [foldersFor_of_not_above above]
      simp [Counts, above]

/-- What counts comes from the outermost inwards. -/
theorem foldersFor_inwards (workspace : Option Path) (inner : Path) :
    (foldersFor workspace inner).Pairwise fun a b => a.Above b ∧ a ≠ b := by
  cases workspace with
  | none => exact List.pairwise_singleton ..
  | some root =>
    by_cases above : root.Above inner
    · rw [foldersFor_of_above above, List.pairwise_map]
      refine List.Pairwise.imp_of_mem (fun {m n} _ last before => ?_) List.pairwise_lt_range
      rw [List.mem_range] at last
      refine ⟨⟨rfl, List.take_prefix_take_left (by omega)⟩, fun same => ?_⟩
      have lengths := congrArg (fun p : Path => p.parts.length) same
      simp only [List.length_take] at lengths
      omega
    · rw [foldersFor_of_not_above above]
      exact List.pairwise_singleton ..

/-- A directory whose name only begins with the root's name is not below the root. -/
theorem not_above_sibling (p : Path) (name : String) {more : String} (longer : more ≠ "") (rest : List String) :
    ¬ (p.child name).Above { p with parts := p.parts ++ (name ++ more) :: rest } := by
  rintro ⟨_, start⟩
  have first : [name] <+: (name ++ more) :: rest := (List.prefix_append_right_inj p.parts).mp start
  obtain ⟨same, -⟩ := List.cons_prefix_cons.mp first
  exact longer (String.append_right_inj name |>.mp (by simpa using same.symm))

section

variable {s : Store} {l : Loaded} {t t₀ : FileTree} {directory : List String} {folder p : Path}
  {given : Option String} {document : String}

/-- The files that count for a document are, the outermost first and each once, those of the folders
from the workspace root, or from the document's directory if that is not the root or below it, down to the
document's directory, as far as they are files. The way up from the directory comes to the root if and
only if the directory is the root or below it, and ends there; nothing above the root or beside it matters. -/
theorem folderFiles_applicable (made : create t₀ directory folder given = .ok (s, l))
    (resolved : t.resolve directory document = .ok p) :
    (workspaceOf given = none ∧ s.workspace = none ∨
      ∃ w root, workspaceOf given = some w ∧ t₀.resolve directory w = .ok root ∧ s.workspace = some root) ∧
    (∃ folders : List Path, s.folderFiles t directory document = .ok (folders.map folderFile) ∧
      (∀ q, q ∈ folders ↔ Counts s.workspace p.parent q ∧ t.isFile directory (folderFile q) = true) ∧
      (folders.map folderFile).Nodup ∧ folders.Pairwise fun a b => a.Above b ∧ a ≠ b) ∧
    (∀ root, s.workspace = some root →
      (root ∈ p.parent.lineage ↔ root.Above p.parent) ∧
      (root ∈ p.parent.lineage → ∃ n, p.parent.lineage.idxOf? root = some n ∧
        s.folderFiles t directory document =
          .ok (((p.parent.lineage.take (n + 1)).reverse.map folderFile).filter (t.isFile directory)))) ∧
    (∀ t' : FileTree, t'.resolve directory document = .ok p →
      (∀ q, Counts s.workspace p.parent q → t'.isFile directory (folderFile q) = t.isFile directory (folderFile q)) →
      s.folderFiles t' directory document = s.folderFiles t directory document) ∧
    ∀ (q : Path) name more rest, more ≠ "" → s.workspace = some (q.child name) →
      p.parent = { q with parts := q.parts ++ (name ++ more) :: rest } →
      ∀ e, Counts s.workspace p.parent e ↔ e = p.parent := by
  have plain : p.parent.Plain := (FileTree.resolve_plain resolved).parent
  have inwards := foldersFor_inwards s.workspace p.parent
  let folders := (foldersFor s.workspace p.parent).filter fun q => t.isFile directory (folderFile q)
  refine ⟨create_workspace made, ⟨folders, ?_, ?_, ?_, ?_⟩,
    fun root workspace => ⟨Path.mem_lineage_iff, fun below => ?_⟩, fun t' resolvedToo same => ?_,
    fun q name more rest longer workspace beside e => ?_⟩
  · rw [folderFiles_eq resolved, List.filter_map]
    rfl
  · intro q
    rw [List.mem_filter, mem_foldersFor_iff]
  · refine List.Nodup.map_on (fun q first r second same => ?_) ((inwards.imp fun apart => apart.2).filter _)
    exact folderFile_injective (foldersFor_plain plain (List.mem_filter.mp first).1)
      (foldersFor_plain plain (List.mem_filter.mp second).1) same
  · exact inwards.filter _
  · have above := Path.mem_lineage_iff.mp below
    refine ⟨_, Path.idxOf?_lineage above, ?_⟩
    rw [folderFiles_eq resolved, workspace, foldersFor_eq_lineage above]
  · rw [folderFiles_eq resolved, folderFiles_eq resolvedToo]
    congr 1
    refine List.filter_congr fun path member => ?_
    obtain ⟨q, counts, rfl⟩ := List.mem_map.mp member
    exact same q (mem_foldersFor_iff.mp counts)
  · have outside : ¬ (q.child name).Above p.parent := beside ▸ not_above_sibling q name longer rest
    rw [← mem_foldersFor_iff, workspace, foldersFor_of_not_above outside, List.mem_singleton]

/-- A workspace that is named through a link, with files in its root, above it, and two folders below
it, where a link stands for the file; the folder between has a directory of that name. -/
def linkedTree : FileTree where
  entries := [(["home"], .directory), (["w"], .directory), (["w", ".cccdiag.json"], .file []),
    (["w", "x.json"], .file []), (["w", "p"], .directory), (["w", "p", ".cccdiag.json"], .file []),
    (["w", "p", "a"], .directory),
    (["w", "p", "a", ".cccdiag.json"], .directory), (["w", "p", "a", "b"], .directory),
    (["w", "p", "a", "b", ".cccdiag.json"], .link "../../../x.json"), (["w", "l"], .link "p/a")]

/-- The file of the root and the one that the link leads to count, in this order. -/
theorem folderFiles_applicable_linked :
    ∃ (s : Store) (l : Loaded) (folders : List Path),
      create linkedTree [] ⟨"/", ["home"]⟩ (some "/w/l/..") = .ok (s, l) ∧
      linkedTree.resolve [] "/w/l/b/x.c" = .ok ⟨"/", ["w", "p", "a", "b", "x.c"]⟩ ∧
      s.folderFiles linkedTree [] "/w/l/b/x.c" = .ok (folders.map folderFile) ∧
      s.folderFiles linkedTree [] "/w/l/b/x.c" = .ok ["/w/p/.cccdiag.json", "/w/p/a/b/.cccdiag.json"] ∧
      ⟨"/", ["w", "p"]⟩ ∈ folders ∧ ⟨"/", ["w", "p", "a", "b"]⟩ ∈ folders ∧ ⟨"/", ["w", "p", "a"]⟩ ∉ folders ∧
      ⟨"/", ["w"]⟩ ∉ folders := by
  have checked : (create linkedTree [] ⟨"/", ["home"]⟩ (some "/w/l/..")).toOption.any (fun made : Store × Loaded =>
      decide (made.1.workspace = some ⟨"/", ["w", "p"]⟩)) = true := by
    decide +kernel
  have resolved : linkedTree.resolve [] "/w/l/b/x.c" = .ok ⟨"/", ["w", "p", "a", "b", "x.c"]⟩ := by decide +kernel
  obtain ⟨⟨s, l⟩, made, checked⟩ := exists_ok_of_any checked
  have root : s.workspace = some ⟨"/", ["w", "p"]⟩ := of_decide_eq_true checked
  obtain ⟨-, ⟨folders, files, counted, -, -⟩, slice, -, -⟩ := folderFiles_applicable made resolved
  have listed : s.folderFiles linkedTree [] "/w/l/b/x.c" = .ok ["/w/p/.cccdiag.json", "/w/p/a/b/.cccdiag.json"] := by
    obtain ⟨n, steps, sliced⟩ := (slice _ root).2 (by decide)
    have two : n = 2 := by
      have found : (some n : Option Nat) = some 2 := steps.symm.trans (by decide)
      exact Option.some.inj found
    rw [sliced, two]
    decide +kernel
  have counts (q : Path) : q ∈ folders ↔ Counts (some ⟨"/", ["w", "p"]⟩) ⟨"/", ["w", "p", "a", "b"]⟩ q ∧
      linkedTree.isFile [] (folderFile q) = true := root ▸ counted q
  refine ⟨s, l, folders, made, resolved, files, listed, (counts _).mpr ⟨.inl ⟨_, rfl, by decide⟩, by decide +kernel⟩,
    (counts _).mpr ⟨.inl ⟨_, rfl, by decide⟩, by decide +kernel⟩, fun member => ?_, fun member => ?_⟩
  · have there := ((counts _).mp member).2
    revert there
    decide +kernel
  · rcases ((counts _).mp member).1 with ⟨_, same, _, below, _⟩ | ⟨_, same⟩
    · cases same
      revert below
      decide
    · cases same

end

end Settings.Store

end Diagnosis
