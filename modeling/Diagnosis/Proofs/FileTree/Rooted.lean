import Diagnosis.Proofs.FileTree.Resolve

/-!
# Resolved paths begin at the root

Wherever a path leads, and whatever links are on the way, the text that it resolves to
begins with a slash.
-/

namespace Diagnosis

/-- A text that begins with a slash. -/
def Rooted (s : String) : Prop := s.toList.head? = some '/'

theorem Rooted.append {s : String} (rooted : Rooted s) (more : String) : Rooted (s ++ more) := by
  obtain ⟨rest, chars⟩ := List.head?_eq_some_iff.mp rooted
  rw [Rooted, String.toList_append, chars]
  rfl

theorem rooted_join {a : String} (rooted : Rooted a) (b : String) : Rooted (Path.join a b) := by
  unfold Path.join
  split
  · rename_i starts
    obtain ⟨rest, chars⟩ := String.startsWith_string_iff.mp starts
    rw [Rooted, ← chars]
    rfl
  · split
    · exact rooted.append b
    · exact (rooted.append "/").append b

/-- A path with the root of a text that begins with a slash begins with one. -/
theorem Rooted.text {s : String} (rooted : Rooted s) (parts : List String) :
    Rooted (Path.text ⟨Path.rootOf s, parts⟩) := by
  obtain ⟨rest, chars⟩ := List.head?_eq_some_iff.mp rooted
  have root : Path.rootOf s = "/" ∨ Path.rootOf s = "//" := by
    unfold Path.rootOf
    rw [chars]
    split
    · exact .inl rfl
    · exact .inr rfl
    · exact .inl rfl
    · rename_i none
      exact absurd rfl (none rest)
  unfold Path.text
  dsimp only
  rcases root with single | double
  · rw [single]
    exact Rooted.append (s := "/") rfl _
  · rw [double]
    exact Rooted.append (s := "//") rfl _

theorem Rooted.normalize {s : String} (rooted : Rooted s) : Rooted (Path.normalize s) := rooted.text _

theorem Rooted.ofString {s : String} (rooted : Rooted s) : Rooted (Path.ofString s).text := rooted.text _

namespace FileTree

variable {t : FileTree} {depth : Nat}

theorem rooted_textOf (place : List String) : Rooted (textOf place) :=
  Rooted.append (s := "/") rfl _

theorem rooted_leave {fuel : Nat} {path : String} (rooted : Rooted path) (errands : List (Errand depth)) :
    Rooted (leave fuel path errands) := by
  induction fuel generalizing path errands with
  | zero => exact rooted
  | succ fuel ih =>
    cases errands with
    | nil => exact rooted
    | cons errand rest => exact ih (rooted_join rooted _) _

theorem rooted_follow (fuel : Nat) (seen : Seen depth) (spot : Spot depth) (errands : List (Errand depth)) :
    Rooted (t.follow fuel seen spot errands) := by
  induction fuel generalizing seen spot errands with
  | zero => exact rooted_textOf spot.place
  | succ fuel ih =>
    cases errands with
    | nil => exact rooted_textOf spot.place
    | cons errand rest =>
      cases errand with
      | done link => exact ih ((link, some spot) :: seen) spot rest
      | piece name =>
        unfold follow
        split
        · exact ih seen spot rest
        · split
          · exact ih seen spot.up rest
          · dsimp only
            split
            · split
              · exact ih seen _ rest
              · exact rooted_leave (rooted_textOf _) rest
              · exact ih _ _ _
            · exact ih seen _ rest

theorem rooted_resolve {directory : List String} {path : String} {p : Path}
    (resolved : t.resolve directory path = .ok p) : Rooted p.text := by
  unfold resolve at resolved
  split at resolved
  · cases resolved
  · dsimp only at resolved
    split at resolved
    · cases resolved
    · cases resolved
      exact (rooted_follow _ _ _ _).normalize.ofString

end FileTree

end Diagnosis
