import Diagnosis.Proofs.Gcc.Heading

/-!
# Later locations

Where a location on the first line has something with a colon behind it, the
default record takes the last such location, and everything before it for the
file. So a message that has one is about another file than the one in front.
-/

namespace Diagnosis.Gcc

open Pattern

/-- Something is said where a colon comes on the line. -/
theorem statement_ne_none {text : Array Char} {p : Place} (single : '\n' ∉ p.rest text)
    (colon_follows : ':' ∈ (p.rest text).drop 1) : statement.run text some p ≠ none := by
  intro fails
  obtain ⟨j, there⟩ := List.getElem?_of_mem colon_follows
  rw [List.getElem?_drop] at there
  have inside := (List.getElem?_eq_some_iff.mp there).1
  have whole := takeWhile_single single
  rw [statement, run_seq] at fails
  have unskipped := (run_marked_eq_none_iff none).mp fails 0 (Nat.zero_le _) (Nat.zero_le _)
  rw [run_seq] at unskipped
  have silent := (run_marked_eq_none_iff _).mp unskipped (1 + j) (by omega) (by
    rw [stretch_any, Place.rest_past, List.drop_zero, whole]
    omega)
  have ends : (((p.past 0 none).past (1 + j) (some 4)).rest text).head? = some ':' := by
    rw [Place.rest_past, Place.rest_past, List.drop_zero, List.head?_drop, there]
  rw [run_seq, run_colon, if_pos ends, run_inLine] at silent
  cases silent

/-- What is said changes no other group. -/
theorem group?_statement {text : Array Char} {p q : Place} (matched : statement.run text some p = some q) (start : Nat)
    {number : Nat} (first : 1 ≤ number) (other : 4 ≠ number) :
    (⟨start, q⟩ : Found).group? text number = (⟨start, p⟩ : Found).group? text number := by
  rw [statement, run_seq] at matched
  obtain ⟨i, _, _, unskipped, _⟩ := exists_of_run_marked none matched
  rw [run_seq] at unskipped
  obtain ⟨j, _, _, said, _⟩ := exists_of_run_marked _ unskipped
  rw [run_seq, run_colon] at said
  split at said
  · rw [run_inLine] at said
    cases said
    rw [group?_forward, group?_forward, group?_past_of_ne j (by decide) first other, Place.past, group?_forward]
  · cases said

/-- The file ends at the last place from which the record matches. -/
theorem exists_of_run_record {cs : List Char} {q : Place} (matched : recordNode.run cs.toArray some Heading.first = some q) :
    ∃ k, rules.captured (.ofList cs) 1 = some (.ofList (cs.take k)) ∧
      ∀ j, k < j → j ≤ (Test.any false).stretch cs →
        (located (some 2) (some 3) (.seq colon statement)).run cs.toArray some (Heading.first.past j (some 1)) = none := by
  have found : rules.record.search cs.toArray = some ⟨0, q⟩ := search_of_first matched
  rw [Heading.run_record_eq] at matched
  obtain ⟨k, _, _, onward, fails⟩ := exists_of_run_marked _ matched
  refine ⟨k, ?_, fails⟩
  rw [run_located _ (run_seq ..)] at onward
  split at onward
  · cases onward
  · have kept := group?_statement onward 0 (show 1 ≤ 1 by decide) (by decide)
    have taken : (⟨0, q⟩ : Found).group? cs.toArray 1 = some (.ofList (cs.take k)) := by
      rw [kept, behindLocation, group?_forward, group?_past_of_ne _ (by decide) (by decide) (by decide), group?_forward,
        group?_past_of_ne _ (by decide) (by decide) (by decide), group?_forward,
        group?_past_self _ (by decide) (by simp [Heading.size_marks_first]), Heading.rest_first]
    rw [Rules.captured, String.toList_ofList, found, Option.bind_some]
    exact taken

/-- From a later location the record matches. -/
theorem located_relocated {front cs : List Char} (single : '\n' ∉ front ++ cs) (relocated : relocates cs = true) :
    ∃ i ≤ cs.length, (located (some 2) (some 3) (.seq colon statement)).run (front ++ cs).toArray some
      (Heading.first.past (front.length + i) (some 1)) ≠ none := by
  obtain ⟨i, within, later⟩ := firstLineHas_iff.mp relocated
  refine ⟨i, Nat.le_trans within (List.takeWhile_sublist _).length_le, ?_⟩
  have behind : (Heading.first.past (front.length + i) (some 1)).rest (front ++ cs).toArray = cs.drop i := by
    rw [Place.rest_past, Heading.rest_first, List.drop_length_add_append]
  rw [run_located _ (run_seq ..), behind]
  cases found : located? (cs.drop i) with
  | none => rw [found] at later; cases later
  | some numbers =>
    obtain ⟨line, column, rest⟩ := numbers
    obtain ⟨_, _, split⟩ := located?_eq_some_iff.mp found
    have left := rest_behindLocation (behind ▸ found) (some 2) (some 3)
    have member_rest : ∀ c ∈ rest, c ∈ front ++ cs := fun c member =>
      List.mem_append_right _ (List.mem_of_mem_drop (i := i) (split ▸ List.mem_append_right _ member))
    refine statement_ne_none ?_ ?_
    · rw [left]
      exact fun member => single (member_rest _ member)
    · rw [found] at later
      rw [left]
      exact List.contains_iff_mem.mp later

/-- Where there is a later location, the file goes up to the last one. -/
theorem file_relocated {front cs : List Char} (single : '\n' ∉ front ++ cs) (some_front : front ≠ [])
    (relocated : relocates cs = true) {r : Record} (extracted : rules.extract (.ofList (front ++ cs)) = some r) :
    ∃ more, more <+: cs ∧ r.file = .ofList (front ++ more) := by
  obtain ⟨i, inside, succeeds⟩ := located_relocated single relocated
  have enough : 1 ≤ front.length := List.length_pos_iff.mpr some_front
  have reached : front.length + i ≤ (Test.any false).stretch (front ++ cs) := by
    rw [stretch_any, takeWhile_single single, List.length_append]
    omega
  cases matched : recordNode.run (front ++ cs).toArray some Heading.first with
  | none =>
    rw [Heading.run_record_eq] at matched
    exact absurd ((run_marked_eq_none_iff _).mp matched (front.length + i) (by omega) reached) succeeds
  | some q =>
    obtain ⟨k, captured, fails⟩ := exists_of_run_record matched
    have beyond : front.length + i ≤ k := Nat.le_of_not_lt fun small => succeeds (fails _ small reached)
    rw [Rules.extract_eq, Option.map_eq_some_iff] at extracted
    obtain ⟨⟨file, line⟩, named, rfl⟩ := extracted
    simp only [Rules.named?, Option.bind_eq_bind, Option.bind_eq_some_iff, Option.pure_def, Option.some.injEq,
      Prod.mk.injEq] at named
    obtain ⟨file', taken, _, _, _, _, rfl, _⟩ := named
    have same : rules.captured (.ofList (front ++ cs)) 1 = some file' := taken
    rw [captured, List.take_append, List.take_of_length_le (by omega), Option.some.injEq] at same
    exact ⟨_, List.take_prefix .., same.symm⟩

end Diagnosis.Gcc
