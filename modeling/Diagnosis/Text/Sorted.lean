/-!
# Sorted texts

Lists of texts in the order of their characters, each once.
-/

namespace Diagnosis.Text

/-- A sorted list with a text in its place. -/
def insertSorted (s : String) : List String → List String
  | [] => [s]
  | t :: rest => if s = t then t :: rest else if s < t then s :: t :: rest else t :: insertSorted s rest

/-- The texts of a list in order, each once. -/
def sorted (ss : List String) : List String := ss.foldr insertSorted []

theorem mem_insertSorted {s t : String} {ss : List String} :
    t ∈ insertSorted s ss ↔ t = s ∨ t ∈ ss := by
  induction ss with
  | nil => simp [insertSorted]
  | cons u rest ih =>
    simp only [insertSorted]
    split
    · next h => subst h; simp
    · split
      · simp
      · simp only [List.mem_cons, ih]; grind

/-- Sorting keeps what is in a list. -/
theorem mem_sorted {t : String} {ss : List String} : t ∈ sorted ss ↔ t ∈ ss := by
  induction ss with
  | nil => simp [sorted]
  | cons s rest ih =>
    simp only [sorted, List.foldr_cons, List.mem_cons] at ih ⊢
    rw [mem_insertSorted, ih]

end Diagnosis.Text
