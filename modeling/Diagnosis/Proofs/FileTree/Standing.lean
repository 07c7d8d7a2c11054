import Diagnosis.Proofs.FileTree.Arrival
import Diagnosis.Proofs.FileTree.Rooted
import Diagnosis.Proofs.FileTree.Write

/-!
# What stands where paths lead

What a path leads to stands in directories that are there, so that the path it resolves to leads to
it as well.
-/

namespace Diagnosis.FileTree

variable {t : FileTree} {place there pieces directory : List String} {e : Entry} {path : String}

/-- Something stands at a place, and directories all the way to it. -/
structure Stands (t : FileTree) (place : List String) (e : Entry) : Prop where
  named : ∀ name ∈ place, name ≠ "" ∧ name ≠ "." ∧ name ≠ ".." ∧ '/' ∉ name.toList
  above : ∀ front, front <+: place → front ≠ place → t.entry? front = some .directory
  found : t.entry? place = some e

theorem stands_root (t : FileTree) : Stands t [] .directory where
  named _ member := nomatch member
  above _ start other := absurd (List.prefix_nil.mp start) other
  found := rfl

theorem Stands.of_prefix (stands : Stands t place .directory) {front : List String} (start : front <+: place) :
    Stands t front .directory := by
  have all : ∀ front, front <+: place → t.entry? front = some .directory := by
    intro front start
    by_cases whole : front = place
    · rw [whole]
      exact stands.found
    · exact stands.above front start whole
  exact ⟨fun name member => stands.named name (start.mem member), fun _ further _ => all _ (further.trans start),
    all front start⟩

theorem Stands.child (stands : Stands t place .directory) {name : String}
    (named : name ≠ "" ∧ name ≠ "." ∧ name ≠ ".." ∧ '/' ∉ name.toList) (found : t.entry? (place ++ [name]) = some e) :
    Stands t (place ++ [name]) e where
  named other member := by
    rcases List.mem_append.mp member with old | new
    · exact stands.named other old
    · rwa [List.mem_singleton.mp new]
  above front start other := by
    rcases List.prefix_concat_iff.mp start with whole | before
    · exact absurd whole other
    · exact (stands.of_prefix before).found
  found := found

theorem Stands.startOf (stands : Stands t place .directory) (path : String) :
    Stands t (startOf place path) .directory := by
  unfold FileTree.startOf
  split
  · exact stands_root t
  · exact stands

theorem Stands.direct (stands : Stands t place e) (unlinked : ∀ target, e ≠ .link target) : Direct t place where
  named := stands.named
  unlinked front start target linked := by
    by_cases whole : front = place
    · rw [whole, stands.found] at linked
      cases linked
      exact unlinked target rfl
    · rw [stands.above front start whole] at linked
      cases linked

/-- What going down has come to stands in directories that are there. -/
def Descent.Standing (t : FileTree) : Descent → Prop
  | .arrived place (some e) => Stands t place e
  | .linked within _ rest => Stands t within .directory ∧ ∀ piece ∈ rest, '/' ∉ piece.toList
  | _ => True

theorem standing_descend (stands : Stands t place .directory) (words : ∀ piece ∈ pieces, '/' ∉ piece.toList) :
    (t.descend true place pieces).Standing t := by
  induction pieces generalizing place with
  | nil => exact stands
  | cons piece rest ih =>
    have later : ∀ piece ∈ rest, '/' ∉ piece.toList := fun piece member => words piece (List.mem_cons_of_mem _ member)
    rw [descend]
    split
    · exact ih stands later
    · split
      · exact ih (stands.of_prefix (List.dropLast_prefix place)) later
      · rename_i named down
        rw [not_or] at named
        have word : piece ≠ "" ∧ piece ≠ "." ∧ piece ≠ ".." ∧ '/' ∉ piece.toList :=
          ⟨named.1, named.2, down, words piece List.mem_cons_self⟩
        dsimp only
        split
        · split <;> trivial
        · exact ih (stands.child word ‹_›) later
        · split
          · exact stands.child word ‹_›
          · trivial
        · rw [Bool.not_true, Bool.and_false, if_neg Bool.false_ne_true]
          exact ⟨stands, later⟩

/-- What a path leads to from a directory that is there stands in directories that are there. -/
theorem stands_of_walk {links : Nat} (stands : Stands t place .directory) (words : ∀ piece ∈ pieces, '/' ∉ piece.toList)
    (went : t.walk true links place pieces = .ok (there, some e)) : Stands t there e := by
  induction links generalizing place pieces with
  | zero =>
    have standing := standing_descend stands words
    rw [walk] at went
    split at went
    · rename_i arrived
      cases went
      rwa [arrived] at standing
    · cases went
    · cases went
  | succ links ih =>
    have standing := standing_descend stands words
    rw [walk] at went
    split at went
    · rename_i arrived
      cases went
      rwa [arrived] at standing
    · cases went
    · rename_i linked
      rw [linked] at standing
      obtain ⟨within, later⟩ := standing
      refine ih (within.startOf _) (fun piece member => ?_) went
      rcases List.mem_append.mp member with through | after
      · exact slash_not_mem_rawPieces through
      · exact later piece after

/-- The system goes straight to what stands at a place. -/
theorem descend_stands {names : List String} (start : t.entry? place = some .directory)
    (stands : Stands t (place ++ names) e) (unlinked : ∀ target, e ≠ .link target) :
    t.descend true place names = .arrived (place ++ names) (some e) := by
  induction names generalizing place with
  | nil =>
    have found := stands.found
    rw [List.append_nil, start] at found
    cases found
    rw [descend, List.append_nil]
  | cons name rest ih =>
    obtain ⟨nonempty, dot, up, _⟩ := stands.named name (by simp)
    have whole : place ++ name :: rest = place ++ [name] ++ rest := by simp
    rw [whole] at stands ⊢
    rw [descend, if_neg (not_or.mpr ⟨nonempty, dot⟩), if_neg up]
    dsimp only
    cases rest with
    | nil =>
      have found := stands.found
      rw [List.append_nil] at found ⊢
      rw [found]
      cases e with
      | file bytes => rfl
      | directory => rfl
      | link target => exact absurd rfl (unlinked target)
    | cons next more =>
      have present : t.entry? (place ++ [name]) = some .directory :=
        stands.above _ (List.prefix_append ..) (by simp)
      rw [present]
      exact ih present stands

theorem locate_stands (stands : Stands t place e) (unlinked : ∀ target, e ≠ .link target) (directory : List String) :
    t.locate true directory (textOf place) = .ok (place, some e) := by
  have down : t.descend true [] (rawPieces (textOf place)) = .arrived place (some e) := by
    have whole : t.descend true [] place = .arrived place (some e) := descend_stands rfl stands unlinked
    rw [rawPieces_textOf (stands.direct unlinked), descend_blank]
    split
    · rename_i top
      subst top
      rw [descend_blank]
      exact whole
    · exact whole
  unfold locate
  rw [if_neg (by simp [textOf]), startOf_textOf, walk, down]

/-- What a path leads to, the path that it resolves to leads to as well. -/
theorem resolve_of_holds (start : Stands t directory .directory) (clean : '\x00' ∉ path.toList)
    (held : t.holds directory path = true) :
    ∃ p, t.resolve directory path = .ok p ∧ t.holds directory p.text = true := by
  unfold holds find? at held
  split at held
  · rename_i there found went
    obtain ⟨e, rfl⟩ := Option.isSome_iff_exists.mp held
    have unlinked : ∀ target, e ≠ .link target := fun target linked =>
      locate_unlinked went target (congrArg some linked)
    have stands : Stands t there e := by
      unfold locate at went
      split at went
      · cases went
      · exact stands_of_walk (start.startOf path) (fun _ => slash_not_mem_rawPieces) went
    refine ⟨⟨"/", there⟩, resolve_of_locate ((start.startOf path).direct nofun) clean went, ?_⟩
    rw [← textOf_eq, holds, find?, locate_stands stands unlinked]
    rfl
  · cases held

theorem startOf_rooted (rooted : Rooted path) (directory : List String) : FileTree.startOf directory path = [] := by
  obtain ⟨rest, chars⟩ := List.head?_eq_some_iff.mp rooted
  have slash : path.startsWith "/" = true := String.startsWith_string_iff.mpr ⟨rest, chars.symm⟩
  rw [FileTree.startOf, if_pos slash]

/-- A file that a path from the root leads to is where the path resolves to. -/
theorem read_resolved {bytes : List Nat} {p : Path} (rooted : Rooted path)
    (given : t.read directory path = .ok bytes) (resolved : t.resolve directory path = .ok p) :
    t.read directory p.text = .ok bytes := by
  have clean : '\x00' ∉ path.toList := by
    intro spoilt
    rw [resolve, if_pos (List.contains_iff_mem.mpr spoilt)] at resolved
    cases resolved
  unfold read at given
  split at given
  · cases given
  · rename_i there _ went
    cases given
    have stands : Stands t there (.file bytes) := by
      unfold locate at went
      split at went
      · cases went
      · rw [startOf_rooted rooted] at went
        exact stands_of_walk (stands_root t) (fun _ => slash_not_mem_rawPieces) went
    have direct : Direct t (FileTree.startOf directory path) := by
      rw [startOf_rooted rooted]
      exact direct_nil t
    cases resolved.symm.trans (resolve_of_locate direct clean went)
    rw [← textOf_eq, read, locate_stands stands nofun]
  · cases given
  · cases given

end Diagnosis.FileTree
