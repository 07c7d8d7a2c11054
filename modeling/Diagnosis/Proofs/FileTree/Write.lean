import Diagnosis.FileTree.Change
import Diagnosis.Proofs.FileTree.Contents

/-!
# Writing files

What is written to a file is read back from it, and whatever was a directory still is one. A
directory that has been made is there, and making it again changes nothing.
-/

namespace Diagnosis.FileTree

variable {t t' : FileTree} {place there directory pieces : List String} {path : String} {last : Bool} {links : Nat}
  {e : Entry} {found : Option Entry}

/-! ## Places -/

theorem below_of_final (final : Final (t.entry? place)) : place ≠ [] := by
  rintro rfl
  rcases final with absent | ⟨bytes, present⟩
  · cases absent
  · cases present

theorem entry?_put_self (below : place ≠ []) (e : Entry) : entry? (t.put place e) place = some e := by
  unfold entry? put
  rw [if_neg (by simpa using below), List.lookup_cons_self]

theorem entry?_put_of_ne (other : there ≠ place) (e : Entry) : entry? (t.put place e) there = t.entry? there := by
  have unlike : (there == place) = false := by simpa using other
  have kept : (t.entries.filter (·.1 != place)).lookup there = t.entries.lookup there := by
    induction t.entries with
    | nil => rfl
    | cons first rest ih =>
      obtain ⟨here, stands⟩ := first
      by_cases same : here = place
      · have apart : (there == here) = false := by rw [same, unlike]
        rw [List.filter_cons_of_neg (by simpa using same), ih, List.lookup_cons, apart]
      · rw [List.filter_cons_of_pos (by simpa using same), List.lookup_cons, List.lookup_cons, ih]
  unfold entry? put
  rw [List.lookup_cons, unlike]
  dsimp only
  rw [kept]

/-! ## Where paths lead after something is put at a place -/

/-- Goes down from a directory to a piece with a name. -/
theorem descend_named {piece : String} (named : ¬ (piece = "" ∨ piece = ".")) (down : piece ≠ "..") (rest : List String) :
    t.descend last directory (piece :: rest) =
      match t.entry? (directory ++ [piece]) with
      | none => if rest.isEmpty then .arrived (directory ++ [piece]) none else .blocked .notFound
      | some .directory => t.descend last (directory ++ [piece]) rest
      | some (.file bytes) =>
        if rest.isEmpty then .arrived (directory ++ [piece]) (some (.file bytes)) else .blocked .notDirectory
      | some (.link target) =>
        if rest.isEmpty && ! last then .arrived (directory ++ [piece]) (some (.link target))
        else .linked directory target rest := by
  rewrite [descend, if_neg named, if_neg down]
  rfl

theorem not_final_directory : ¬ Final (some .directory) := by
  rintro (absent | ⟨bytes, present⟩)
  · cases absent
  · cases present

/-- A path ends in a directory, or at what stands at its place, which is a link only if the last link
is not followed. -/
theorem descend_arrived (went : t.descend last directory pieces = .arrived there found) :
    found = some .directory ∨ t.entry? there = found ∧ (last = true → ∀ target, found ≠ some (.link target)) := by
  induction pieces generalizing directory with
  | nil =>
    cases went
    exact .inl rfl
  | cons piece rest ih =>
    by_cases blank : piece = "" ∨ piece = "."
    · rw [descend, if_pos blank] at went
      exact ih went
    · by_cases up : piece = ".."
      · rw [descend, if_neg blank, if_pos up] at went
        exact ih went
      · rw [descend_named blank up] at went
        split at went
        · rename_i stands
          split at went <;> cases went
          exact .inr ⟨stands, fun _ _ => by rintro ⟨⟩⟩
        · exact ih went
        · rename_i stands
          split at went <;> cases went
          exact .inr ⟨stands, fun _ _ => by rintro ⟨⟩⟩
        · rename_i stands
          split at went
          · rename_i unfollowed
            cases went
            refine .inr ⟨stands, fun followed => ?_⟩
            rw [followed, Bool.not_true, Bool.and_false] at unfollowed
            cases unfollowed
          · cases went

/-- A path that ends at a file, or where nothing is yet, ends at what stands at its place. -/
theorem descend_final (went : t.descend last directory pieces = .arrived there found) (final : Final found) :
    t.entry? there = found := by
  rcases descend_arrived went with rfl | ⟨stands, _⟩
  · exact absurd final not_final_directory
  · exact stands

/-- Something put where a file is, or nothing yet, changes where a path leads only if the path leads there. -/
theorem descend_put (final : Final (t.entry? place)) (unlinked : ∀ target, e ≠ .link target) :
    (t.put place e).descend last directory pieces = t.descend last directory pieces ∨
    (t.descend last directory pieces = .arrived place (t.entry? place) ∧
      (t.put place e).descend last directory pieces = .arrived place (some e)) ∨
    ∃ fault, t.descend last directory pieces = .blocked fault := by
  induction pieces generalizing directory with
  | nil => exact .inl rfl
  | cons piece rest ih =>
    by_cases blank : piece = "" ∨ piece = "."
    · rw [descend, descend, if_pos blank, if_pos blank]
      exact ih
    · by_cases up : piece = ".."
      · rw [descend, descend, if_neg blank, if_neg blank, if_pos up, if_pos up]
        exact ih
      · rw [descend_named blank up, descend_named blank up]
        by_cases here : directory ++ [piece] = place
        · rw [here, entry?_put_self (below_of_final final)]
          right
          cases rest with
          | nil =>
            refine .inl ⟨?_, ?_⟩
            · rcases final with absent | ⟨bytes, present⟩
              · rw [absent]
                rfl
              · rw [present]
                rfl
            · cases e with
              | file bytes => rfl
              | directory => rfl
              | link target => exact absurd rfl (unlinked target)
          | cons next more =>
            rcases final with absent | ⟨bytes, present⟩
            · exact .inr ⟨.notFound, by rw [absent]; rfl⟩
            · exact .inr ⟨.notDirectory, by rw [present]; rfl⟩
        · rw [entry?_put_of_ne here]
          cases t.entry? (directory ++ [piece]) with
          | none => exact .inl rfl
          | some stands =>
            cases stands with
            | directory => exact ih
            | file bytes => exact .inl rfl
            | link target => exact .inl rfl

theorem walk_of_arrived (went : t.descend last directory pieces = .arrived there found) :
    t.walk last links directory pieces = .ok (there, found) := by
  cases links <;> rw [walk, went]

theorem walk_of_blocked {fault : SystemFault} (went : t.descend last directory pieces = .blocked fault) :
    t.walk last links directory pieces = .error fault := by
  cases links <;> rw [walk, went]

/-- A path leads to where its last stretch, with no link on it, leads. -/
theorem exists_descend_of_walk (went : t.walk last links directory pieces = .ok (there, found)) :
    ∃ within rest, t.descend last within rest = .arrived there found := by
  induction links generalizing directory pieces with
  | zero =>
    cases down : t.descend last directory pieces with
    | arrived place stands =>
      cases (walk_of_arrived down).symm.trans went
      exact ⟨directory, pieces, down⟩
    | linked within target rest =>
      rw [walk, down] at went
      cases went
    | blocked fault => cases (walk_of_blocked down).symm.trans went
  | succ links ih =>
    cases down : t.descend last directory pieces with
    | arrived place stands =>
      cases (walk_of_arrived down).symm.trans went
      exact ⟨directory, pieces, down⟩
    | linked within target rest =>
      rw [walk, down] at went
      exact ih went
    | blocked fault => cases (walk_of_blocked down).symm.trans went

theorem walk_final (went : t.walk last links directory pieces = .ok (there, found)) (final : Final found) :
    t.entry? there = found := by
  obtain ⟨within, rest, down⟩ := exists_descend_of_walk went
  exact descend_final down final

theorem walk_put (final : Final (t.entry? place)) (unlinked : ∀ target, e ≠ .link target) :
    (t.put place e).walk last links directory pieces = t.walk last links directory pieces ∨
    (t.walk last links directory pieces = .ok (place, t.entry? place) ∧
      (t.put place e).walk last links directory pieces = .ok (place, some e)) ∨
    ∃ fault, t.walk last links directory pieces = .error fault := by
  induction links generalizing directory pieces with
  | zero =>
    rcases descend_put final unlinked with same | ⟨went, went'⟩ | ⟨fault, blocked⟩
    · rw [walk, walk, same]
      exact .inl rfl
    · exact .inr (.inl ⟨walk_of_arrived went, walk_of_arrived went'⟩)
    · exact .inr (.inr ⟨fault, walk_of_blocked blocked⟩)
  | succ links ih =>
    rcases descend_put final unlinked with same | ⟨went, went'⟩ | ⟨fault, blocked⟩
    · rw [walk, walk, same]
      cases t.descend last directory pieces with
      | arrived there found => exact .inl rfl
      | linked within target rest => exact ih
      | blocked fault => exact .inl rfl
    · exact .inr (.inl ⟨walk_of_arrived went, walk_of_arrived went'⟩)
    · exact .inr (.inr ⟨fault, walk_of_blocked blocked⟩)

theorem locate_final (went : t.locate last directory path = .ok (there, found)) (final : Final found) :
    t.entry? there = found := by
  unfold locate at went
  split at went
  · cases went
  · exact walk_final went final

/-- A path that leads to a file, or where nothing is yet, leads to what is put there. -/
theorem locate_put_self (went : t.locate last directory path = .ok (place, found)) (final : Final found)
    (unlinked : ∀ target, e ≠ .link target) : (t.put place e).locate last directory path = .ok (place, some e) := by
  have stands := locate_final went final
  subst stands
  unfold locate at went ⊢
  split
  · rw [if_pos ‹_›] at went
    cases went
  · rw [if_neg ‹_›] at went
    rcases walk_put final unlinked with same | ⟨_, went'⟩ | ⟨fault, failed⟩
    · -- the path would lead to what stood there before
      have led := same.trans went
      have stands := walk_final led final
      rw [entry?_put_self (below_of_final final)] at stands
      rw [led, stands]
    · exact went'
    · cases failed.symm.trans went

/-- A path that leads to anything else still does. -/
theorem locate_put (went : t.locate last directory path = .ok (there, found)) (other : ¬ Final found)
    (final : Final (t.entry? place)) (unlinked : ∀ target, e ≠ .link target) :
    (t.put place e).locate last directory path = .ok (there, found) := by
  unfold locate at went ⊢
  split
  · rw [if_pos ‹_›] at went
    cases went
  · rw [if_neg ‹_›] at went
    rcases walk_put final unlinked with same | ⟨led, _⟩ | ⟨fault, failed⟩
    · rw [same, went]
    · cases led.symm.trans went
      exact absurd final other
    · cases failed.symm.trans went

/-! ## Links at the end of a path -/

/-- Following a link at the last piece makes a difference only if there is one. -/
theorem descend_last (t : FileTree) (directory pieces : List String) :
    t.descend true directory pieces = t.descend false directory pieces ∨
    ∃ place target, t.descend false directory pieces = .arrived place (some (.link target)) := by
  induction pieces generalizing directory with
  | nil => exact .inl rfl
  | cons piece rest ih =>
    by_cases blank : piece = "" ∨ piece = "."
    · rw [descend, descend, if_pos blank, if_pos blank]
      exact ih directory
    · by_cases up : piece = ".."
      · rw [descend, descend, if_neg blank, if_neg blank, if_pos up, if_pos up]
        exact ih directory.dropLast
      · rw [descend_named blank up, descend_named blank up]
        cases t.entry? (directory ++ [piece]) with
        | none => exact .inl rfl
        | some stands =>
          cases stands with
          | directory => exact ih _
          | file bytes => exact .inl rfl
          | link target =>
            cases rest with
            | nil => exact .inr ⟨_, target, rfl⟩
            | cons next more => exact .inl rfl

theorem walk_last (t : FileTree) (links : Nat) (directory pieces : List String) :
    t.walk true links directory pieces = t.walk false links directory pieces ∨
    ∃ place target, t.walk false links directory pieces = .ok (place, some (.link target)) := by
  induction links generalizing directory pieces with
  | zero =>
    rcases t.descend_last directory pieces with same | ⟨place, target, went⟩
    · rw [walk, walk, same]
      exact .inl rfl
    · exact .inr ⟨place, target, walk_of_arrived went⟩
  | succ links ih =>
    rcases t.descend_last directory pieces with same | ⟨place, target, went⟩
    · rw [walk, walk, same]
      cases t.descend false directory pieces with
      | arrived there found => exact .inl rfl
      | linked within target rest => exact ih ..
      | blocked fault => exact .inl rfl
    · exact .inr ⟨place, target, walk_of_arrived went⟩

theorem locate_last (t : FileTree) (directory : List String) (path : String) :
    t.locate true directory path = t.locate false directory path ∨
    ∃ place target, t.locate false directory path = .ok (place, some (.link target)) := by
  unfold locate
  split
  · exact .inl rfl
  · exact t.walk_last ..

/-- A path whose links are all followed does not end at a link. -/
theorem descend_unlinked (went : t.descend true directory pieces = .arrived there found) (target : String) :
    found ≠ some (.link target) := by
  rcases descend_arrived went with rfl | ⟨_, unlinked⟩
  · rintro ⟨⟩
  · exact unlinked rfl target

theorem locate_unlinked (went : t.locate true directory path = .ok (there, found)) (target : String) :
    found ≠ some (.link target) := by
  unfold locate at went
  split at went
  · cases went
  · obtain ⟨within, rest, down⟩ := exists_descend_of_walk went
    exact descend_unlinked down target

/-! ## Writing and reading -/

/-- What writing a file has done: what is written is put where the path leads, and a file or nothing was there. -/
theorem write_eq_ok {bytes : List Nat} (written : t.write directory path bytes = .ok t') :
    ∃ place found, t.locate true directory path = .ok (place, found) ∧ Final found ∧ t' = t.put place (.file bytes) := by
  unfold write modify at written
  split at written
  · cases written
  · cases written
  · rename_i place before located
    cases written
    exact ⟨place, _, located, .inr ⟨before, rfl⟩, rfl⟩
  · rename_i place found notDirectory notFile located
    cases written
    refine ⟨place, found, located, ?_, rfl⟩
    cases found with
    | none => exact .inl rfl
    | some stands =>
      cases stands with
      | file before => exact absurd rfl (notFile before)
      | directory => exact absurd rfl notDirectory
      | link target => exact absurd rfl (locate_unlinked located target)

/-- A file can be written where a path leads. -/
def Writable (t : FileTree) (directory : List String) (path : String) : Prop :=
  ∃ place found, t.locate true directory path = .ok (place, found) ∧ Final found

theorem writable_of_write {bytes : List Nat} (written : t.write directory path bytes = .ok t') :
    t.Writable directory path ∧ t'.Writable directory path := by
  obtain ⟨place, found, located, final, rfl⟩ := write_eq_ok written
  refine ⟨⟨place, found, located, final⟩, place, some (.file bytes), ?_, .inr ⟨bytes, rfl⟩⟩
  exact locate_put_self located final fun _ => by rintro ⟨⟩

theorem exists_write_of_writable (writable : t.Writable directory path) (bytes : List Nat) :
    ∃ t', t.write directory path bytes = .ok t' := by
  obtain ⟨place, found, located, absent | ⟨before, present⟩⟩ := writable
  · exact ⟨t.put place (.file bytes), by rw [write, modify, located, absent]⟩
  · exact ⟨t.put place (.file bytes), by rw [write, modify, located, present]⟩

/-- What is written to a file is read back. -/
theorem read_of_write {bytes : List Nat} (written : t.write directory path bytes = .ok t') :
    t'.read directory path = .ok bytes := by
  obtain ⟨place, found, located, final, rfl⟩ := write_eq_ok written
  unfold read
  rw [locate_put_self located final fun _ => by rintro ⟨⟩]

theorem isDirectory_iff : t.isDirectory directory path = true ↔
    ∃ place, t.locate true directory path = .ok (place, some .directory) := by
  unfold isDirectory find?
  cases t.locate true directory path with
  | error fault => simp
  | ok led =>
    obtain ⟨place, found⟩ := led
    simp

/-- Writing a file takes no directory away. -/
theorem isDirectory_of_write {bytes : List Nat} {folder : String} (there : t.isDirectory directory folder = true)
    (written : t.write directory path bytes = .ok t') : t'.isDirectory directory folder = true := by
  obtain ⟨place, found, located, final, rfl⟩ := write_eq_ok written
  obtain ⟨within, led⟩ := isDirectory_iff.mp there
  have stands := locate_final located final
  rw [← stands] at final
  exact isDirectory_iff.mpr ⟨within, locate_put led not_final_directory final fun _ => by rintro ⟨⟩⟩

/-- A file that cannot be written cannot be read. -/
theorem read_of_write_error {bytes : List Nat} {fault : SystemError} (failed : t.write directory path bytes = .error fault) :
    ∃ why, t.read directory path = .error why := by
  unfold write modify at failed
  unfold read
  split at failed
  · rename_i why located
    rw [located]
    exact ⟨_, rfl⟩
  · rename_i located
    rw [located]
    exact ⟨_, rfl⟩
  · cases failed
  · cases failed

/-! ## Making directories -/

theorem isDirectory_of_makeDirectory (made : t.makeDirectory directory path = .ok t') :
    t'.isDirectory directory path = true := by
  unfold makeDirectory at made
  split at made
  · cases made
  · rename_i place located
    cases made
    have followed : t.locate true directory path = .ok (place, none) := by
      rcases t.locate_last directory path with same | ⟨other, target, linked⟩
      · exact same.trans located
      · cases located.symm.trans linked
    exact isDirectory_iff.mpr ⟨place, locate_put_self followed (.inl rfl) fun _ => by rintro ⟨⟩⟩
  · cases made

/-- A directory that is there cannot be made. -/
theorem makeDirectory_of_isDirectory (there : t.isDirectory directory path = true) :
    t.makeDirectory directory path = .error (.file .fileExists path) := by
  obtain ⟨place, located⟩ := isDirectory_iff.mp there
  unfold makeDirectory
  rcases t.locate_last directory path with same | ⟨other, target, linked⟩
  · rw [← same, located]
  · rw [linked]

theorem isDirectory_of_makeFirst {p : Path} {n : Nat} (made : t.makeFirst directory p n = .ok t') :
    t'.isDirectory directory (Path.text { p with parts := p.parts.take n }) = true := by
  cases n with
  | zero =>
    rw [List.take_zero]
    unfold makeFirst at made
    dsimp only at made
    split at made
    · cases made
      exact isDirectory_of_makeDirectory ‹_›
    · split at made
      · cases made
        assumption
      · cases made
  | succ n =>
    unfold makeFirst at made
    dsimp only at made
    split at made
    · cases made
      exact isDirectory_of_makeDirectory ‹_›
    · split at made
      · cases made
      · split at made
        · cases made
          exact isDirectory_of_makeDirectory ‹_›
        · cases made
        · split at made
          · cases made
            assumption
          · cases made
    · split at made
      · cases made
        assumption
      · cases made

/-- A directory that has been made is there. -/
theorem isDirectory_of_makeDirectories {p : Path} (made : t.makeDirectories directory p = .ok t') :
    t'.isDirectory directory p.text = true := by
  have there := isDirectory_of_makeFirst made
  rwa [List.take_length] at there

/-- A directory that is there is not made again. -/
theorem makeDirectories_of_isDirectory {p : Path} (there : t.isDirectory directory p.text = true) :
    t.makeDirectories directory p = .ok t := by
  obtain ⟨root, parts⟩ := p
  have refused := makeDirectory_of_isDirectory there
  unfold makeDirectories
  dsimp only
  cases size : parts.length with
  | zero =>
    cases List.eq_nil_of_length_eq_zero size
    unfold makeFirst
    dsimp only
    rw [refused]
    dsimp only
    rw [if_pos there]
  | succ n =>
    unfold makeFirst
    dsimp only
    rw [← size, List.take_length, refused]
    dsimp only
    rw [if_pos there]

end Diagnosis.FileTree
