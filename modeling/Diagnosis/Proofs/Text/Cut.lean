/-!
# Texts cut at a character

Cutting at every occurrence of a character, one character of the text after the other, is the
`List.splitOn` of the library. What lies between the cuts does not have the character.
-/

namespace Diagnosis.Text

/-- What puts a character in front of the first piece, or begins a new piece at the one to cut at, is
`List.splitOn`. -/
theorem eq_splitOn {mark : Char} {cut : List Char → List (List Char)} (nil : cut [] = [[]])
    (cons : ∀ c rest, cut (c :: rest) =
      if c = mark then [] :: cut rest
      else match cut rest with
        | [] => [[c]]
        | piece :: pieces => (c :: piece) :: pieces)
    (cs : List Char) : cut cs = cs.splitOn mark := by
  induction cs with
  | nil => rw [nil, List.splitOn_nil]
  | cons c rest ih =>
    rw [cons, List.splitOn_cons_eq_if_modifyHead, ih]
    by_cases here : c = mark
    · simp [here]
    · rw [if_neg here, if_neg (by simpa using here)]
      cases pieces : rest.splitOn mark with
      | nil => exact absurd pieces (List.splitOn_ne_nil mark rest)
      | cons piece others => rfl

theorem not_mem_of_mem_splitOn {mark : Char} {cs piece : List Char} (member : piece ∈ cs.splitOn mark) :
    mark ∉ piece := by
  induction cs generalizing piece with
  | nil =>
    rw [List.splitOn_nil, List.mem_singleton] at member
    simp [member]
  | cons c rest ih =>
    rw [List.splitOn_cons_eq_if_modifyHead] at member
    by_cases here : c = mark
    · rw [if_pos (by simpa using here), List.mem_cons] at member
      rcases member with rfl | later
      · exact List.not_mem_nil
      · exact ih later
    · rw [if_neg (by simpa using here)] at member
      cases pieces : rest.splitOn mark with
      | nil => exact absurd pieces (List.splitOn_ne_nil mark rest)
      | cons first others =>
        rw [pieces] at ih member
        rcases List.mem_cons.mp member with rfl | later
        · simp [Ne.symm here, ih List.mem_cons_self]
        · exact ih (List.mem_cons_of_mem _ later)

end Diagnosis.Text
