import Diagnosis.FileTree.Resolve
import Diagnosis.Proofs.Address

/-!
# Resolved paths

A place that no link is on the way to resolves to itself.
-/

namespace Diagnosis

/-! ## Texts of places -/

namespace Path

theorem climb_straight (rooted : Bool) {parts : List String} (straight : ∀ part ∈ parts, part ≠ "..")
    (done : List String) : climb rooted done parts = done.reverse ++ parts := by
  induction parts generalizing done with
  | nil => rw [climb, List.append_nil]
  | cons part rest ih =>
    unfold climb
    rw [if_pos (straight part List.mem_cons_self), ih fun p later => straight p (List.mem_cons_of_mem _ later)]
    simp

end Path

namespace FileTree

/-- A place as a path leads to it when nothing is left to do: every part of it names something, and
neither the place nor one on the way to it is a link. -/
structure Direct (t : FileTree) (place : List String) : Prop where
  named : ∀ name ∈ place, name ≠ "" ∧ name ≠ "." ∧ name ≠ ".." ∧ '/' ∉ name.toList
  unlinked : ∀ front, front <+: place → ∀ target, t.entry? front ≠ some (.link target)

variable {t : FileTree} {place : List String} {depth : Nat}

theorem direct_nil (t : FileTree) : Direct t [] where
  named _ member := (nomatch member)
  unlinked front start target := by
    rw [List.prefix_nil.mp start]
    rintro ⟨⟩

theorem Direct.of_prefix (direct : Direct t place) {front : List String} (start : front <+: place) :
    Direct t front where
  named name member := direct.named name (start.mem member)
  unlinked other further := direct.unlinked other (further.trans start)

theorem Direct.dropLast (direct : Direct t place) : Direct t place.dropLast :=
  direct.of_prefix (List.dropLast_prefix place)

theorem Direct.child (direct : Direct t place) {name : String}
    (named : name ≠ "" ∧ name ≠ "." ∧ name ≠ ".." ∧ '/' ∉ name.toList)
    (unlinked : ∀ target, t.entry? (place ++ [name]) ≠ some (.link target)) : Direct t (place ++ [name]) where
  named other member := by
    rcases List.mem_append.mp member with old | new
    · exact direct.named other old
    · rwa [List.mem_singleton.mp new]
  unlinked front start := by
    rcases List.prefix_concat_iff.mp start with whole | before
    · rw [whole]
      exact unlinked
    · exact direct.unlinked front before

theorem Direct.startOf (direct : Direct t place) (path : String) : Direct t (startOf place path) := by
  unfold FileTree.startOf
  split
  · exact direct_nil t
  · exact direct

theorem Direct.plain (direct : Direct t place) : Path.Plain ⟨"/", place⟩ where
  root := .inr (.inl rfl)
  parts name member := by
    obtain ⟨nonempty, dot, _, slash⟩ := direct.named name member
    refine ⟨slash, fun empty => nonempty ?_, fun single => dot ?_⟩
    · exact String.toList_injective empty
    · exact String.toList_injective single

theorem textOf_eq (place : List String) : textOf place = (⟨"/", place⟩ : Path).text := rfl

theorem Direct.ofString (direct : Direct t place) : Path.ofString (textOf place) = ⟨"/", place⟩ := by
  rw [textOf_eq]
  exact Path.ofString_text direct.plain

theorem Direct.normalize (direct : Direct t place) : Path.normalize (textOf place) = textOf place := by
  unfold Path.normalize
  rw [direct.ofString]
  dsimp only
  rw [Path.climb_straight _ fun name member => (direct.named name member).2.2.1]
  rfl

theorem slash_not_mem_rawPieces {s piece : String} (member : piece ∈ rawPieces s) : '/' ∉ piece.toList := by
  obtain ⟨chars, split, rfl⟩ := List.mem_map.mp member
  rw [String.toList_ofList]
  exact Path.slash_not_mem_splitSlashes split

/-! ## Where paths lead -/

@[simp]
theorem Spot.place_current (directory : List String) : (Spot.current directory).place = directory := rfl

@[simp]
theorem Spot.place_down (spot : Spot depth) (name : String) : (spot.down name).place = spot.place ++ [name] := rfl

@[simp]
theorem Spot.place_up (spot : Spot depth) : spot.up.place = spot.place.dropLast := rfl

/-- A path leads on from the same place, however that is written. -/
@[simp]
theorem Spot.place_start (spot : Spot depth) (path : String) : (spot.start path).place = startOf spot.place path := by
  unfold Spot.start startOf
  split <;> rfl

/-- The first name on the way to a place that no link is on the way to leads to no link. -/
theorem Direct.step {name : String} {rest : List String} (direct : Direct t (place ++ name :: rest)) :
    ¬ (name = "" ∨ name = ".") ∧ name ≠ ".." ∧ (∀ target, t.entry? (place ++ [name]) ≠ some (.link target)) ∧
      Direct t (place ++ [name] ++ rest) := by
  obtain ⟨nonempty, dot, up, _⟩ := direct.named name (by simp)
  rw [List.append_cons] at direct
  exact ⟨not_or.mpr ⟨nonempty, dot⟩, up, direct.unlinked (place ++ [name]) (List.prefix_append ..), direct⟩

theorem follow_nil (fuel : Nat) (seen : Seen depth) (spot : Spot depth) :
    t.follow fuel seen spot [] = textOf spot.place := by
  cases fuel <;> rfl

/-- Replacing links leads straight to a place that no link is on the way to. -/
theorem follow_straight {fuel : Nat} {seen : Seen depth} {spot : Spot depth} {names : List String}
    (enough : names.length ≤ fuel) (direct : Direct t (spot.place ++ names)) :
    t.follow fuel seen spot (names.map .piece) = textOf (spot.place ++ names) := by
  induction names generalizing fuel spot with
  | nil => rw [List.append_nil, List.map_nil, follow_nil]
  | cons name rest ih =>
    cases fuel with
    | zero => cases enough
    | succ fuel =>
      obtain ⟨named, up, unlinked, further⟩ := direct.step
      rw [List.map_cons, follow, if_neg named, if_neg up]
      dsimp only
      split
      · exact absurd ‹_› (unlinked _)
      · rw [List.append_cons spot.place name rest]
        rw [← Spot.place_down] at further ⊢
        exact ih (Nat.le_of_succ_le_succ enough) further

/-- The system finds such a place without coming to a link. -/
theorem descend_straight {names : List String} (direct : Direct t (place ++ names)) (last : Bool) :
    (∃ there e, t.descend last place names = .arrived there e) ∨
    t.descend last place names = .blocked .notFound ∨ t.descend last place names = .blocked .notDirectory := by
  induction names generalizing place with
  | nil => exact .inl ⟨_, _, rfl⟩
  | cons name rest ih =>
    obtain ⟨named, up, unlinked, further⟩ := direct.step
    unfold descend
    rw [if_neg named, if_neg up]
    dsimp only
    split
    · split
      · exact .inl ⟨_, _, rfl⟩
      · exact .inr (.inl rfl)
    · exact ih further
    · split
      · exact .inl ⟨_, _, rfl⟩
      · exact .inr (.inr rfl)
    · exact absurd ‹_› (unlinked _)

/-- The pieces of the text of such a place are its parts, after the empty one before the first slash. -/
theorem rawPieces_textOf (direct : Direct t place) :
    rawPieces (textOf place) = "" :: if place = [] then [""] else place := by
  unfold rawPieces
  cases place with
  | nil => decide
  | cons name rest =>
    rw [textOf_eq, Path.toList_text (List.cons_ne_nil name rest)]
    have words : ∀ piece ∈ (name :: rest).map String.toList, '/' ∉ piece := by
      intro piece member
      obtain ⟨word, among, rfl⟩ := List.mem_map.mp member
      exact (direct.named word among).2.2.2
    have split : Path.splitSlashes (['/'].intercalate ((name :: rest).map String.toList)) =
        (name :: rest).map String.toList :=
      Path.splitSlashes_intercalate words
    rw [show ("/" : String).toList = ['/'] from rfl, List.singleton_append, Path.splitSlashes, if_pos rfl, split]
    simp

/-- The steps are enough for the pieces. -/
theorem length_lt_stepsFor (t : FileTree) (depth : Nat) (pieces : List String) :
    pieces.length < t.stepsFor depth pieces := by
  have grows {α : Type} {f : Nat → α → Nat} (further : ∀ n a, n ≤ f n a) (xs : List α) (n : Nat) :
      n ≤ xs.foldl f n := by
    induction xs generalizing n with
    | nil => exact Nat.le_refl n
    | cons a rest ih => exact Nat.le_trans (further n a) (ih (f n a))
  refine grows ?_ t.entries (pieces.length + 1)
  rintro n ⟨place, bytes | _ | target⟩
  · exact Nat.le_refl n
  · exact Nat.le_refl n
  · exact Nat.le_add_right ..

theorem startOf_textOf (directory place : List String) : FileTree.startOf directory (textOf place) = [] := by
  unfold FileTree.startOf textOf
  rw [if_pos (by simp)]

theorem follow_blank (fuel : Nat) (seen : Seen depth) (spot : Spot depth) (rest : List (Errand depth)) :
    t.follow (fuel + 1) seen spot (.piece "" :: rest) = t.follow fuel seen spot rest := by
  rw [follow, if_pos (.inl rfl)]

theorem descend_blank (last : Bool) (directory rest : List String) :
    t.descend last directory ("" :: rest) = t.descend last directory rest := by
  rw [descend, if_pos (.inl rfl)]

/-- Following the text of such a place leads to it. -/
theorem follow_textOf (direct : Direct t place) {spot : Spot depth} (top : spot.place = []) :
    t.follow (t.stepsFor depth (rawPieces (textOf place))) [] spot ((rawPieces (textOf place)).map .piece) =
      textOf place := by
  obtain ⟨fuel, steps⟩ := Nat.exists_eq_add_of_lt (t.length_lt_stepsFor depth (rawPieces (textOf place)))
  rw [steps, rawPieces_textOf direct, List.map_cons, follow_blank]
  by_cases whole : place = []
  · subst whole
    rw [if_pos rfl, Nat.add_comm]
    exact (follow_blank ..).trans ((follow_nil ..).trans (congrArg textOf top))
  · have further : Direct t (spot.place ++ place) := by
      rw [top]
      exact direct
    rw [if_neg whole, List.length_cons, follow_straight (by omega) further, top, List.nil_append]

/-- A walk goes through no link on the way to such a place. -/
theorem locate_textOf (direct : Direct t place) (last : Bool) (directory : List String) :
    t.locate last directory (textOf place) ≠ .error .tooManyLinks := by
  have way : (∃ there e, t.descend last [] (rawPieces (textOf place)) = .arrived there e) ∨
      t.descend last [] (rawPieces (textOf place)) = .blocked .notFound ∨
      t.descend last [] (rawPieces (textOf place)) = .blocked .notDirectory := by
    rw [rawPieces_textOf direct, descend_blank]
    by_cases top : place = []
    · subst top
      rw [if_pos rfl, descend_blank]
      exact .inl ⟨_, _, rfl⟩
    · rw [if_neg top]
      exact descend_straight direct last
  unfold locate walk
  rw [startOf_textOf]
  split
  · rintro ⟨⟩
  · rcases way with ⟨there, e, arrived⟩ | missing | blocked
    · rw [arrived]
      rintro ⟨⟩
    · rw [missing]
      rintro ⟨⟩
    · rw [blocked]
      rintro ⟨⟩

/-- A place that no link is on the way to resolves to itself. -/
theorem resolve_textOf (direct : Direct t place) (clean : '\x00' ∉ (textOf place).toList) (directory : List String) :
    t.resolve directory (textOf place) = .ok ⟨"/", place⟩ := by
  have shown : (Path.ofString (textOf place)).text = textOf place := by
    rw [direct.ofString, textOf_eq]
  unfold resolve
  rw [if_neg (by simpa using clean), shown]
  dsimp only
  rw [follow_textOf direct (by rw [Spot.place_start, startOf_textOf]), direct.normalize]
  split
  · exact absurd ‹_› (locate_textOf direct true directory)
  · rw [direct.ofString]

/-- What a path resolves to has been taken apart. -/
theorem resolve_plain {directory : List String} {path : String} {p : Path} (resolved : t.resolve directory path = .ok p) :
    p.Plain := by
  unfold resolve at resolved
  split at resolved
  · cases resolved
  · dsimp only at resolved
    split at resolved
    · cases resolved
    · cases resolved
      exact Path.plain_ofString _

end FileTree

end Diagnosis
