import Diagnosis.Proofs.Block
import Diagnosis.Proofs.Pattern.Order

/-!
# The blocks of a text

Whatever the pattern, the blocks of a text make up the text, none of them is empty,
and they meet exactly where matches begin inside of the text.
-/

namespace Diagnosis

/-! ## Where matches begin -/

theorem matchStarts_le (p : Pattern) {text : Array Char} {cut : Nat} (found : cut ∈ matchStarts p text) :
    cut ≤ text.size := by
  obtain ⟨f, member, rfl⟩ := List.mem_map.mp found
  exact ((p.findAllFrom_ordered text _ 0 true).1 f member).2

theorem matchStarts_ordered (p : Pattern) (text : Array Char) : (matchStarts p text).Pairwise (· ≤ ·) :=
  List.pairwise_map.mpr (p.findAllFrom_ordered text _ 0 true).2

/-! ## Where chunks begin -/

theorem le_of_mem_chunkStarts {pos start : Nat} {chunks : List (List Char)} (member : start ∈ chunkStarts pos chunks) :
    pos ≤ start := by
  induction chunks generalizing pos with
  | nil => cases member
  | cons chunk rest ih =>
    rcases List.mem_cons.mp member with rfl | later
    · exact Nat.le_refl _
    · exact Nat.le_trans (Nat.le_add_right ..) (ih later)

/-- Chunks of some text begin one after the other. -/
theorem chunkStarts_increasing {chunks : List (List Char)} (some_text : ∀ chunk ∈ chunks, chunk ≠ []) (pos : Nat) :
    (chunkStarts pos chunks).Pairwise (· < ·) := by
  induction chunks generalizing pos with
  | nil => exact .nil
  | cons chunk rest ih =>
    refine List.pairwise_cons.mpr ⟨fun start member => ?_, ih (fun c later => some_text c (List.mem_cons_of_mem _ later)) _⟩
    have long := List.length_pos_iff.mpr (some_text chunk List.mem_cons_self)
    have := le_of_mem_chunkStarts member
    omega

theorem chunkStarts_append (pos : Nat) (first second : List (List Char)) :
    chunkStarts pos (first ++ second) = chunkStarts pos first ++ chunkStarts (pos + first.flatten.length) second := by
  induction first generalizing pos with
  | nil => rfl
  | cons chunk rest ih =>
    rw [List.cons_append, chunkStarts, chunkStarts, ih, List.cons_append, List.flatten_cons, List.length_append,
      Nat.add_assoc]

/-! ## Pieces -/

section

variable {text : Array Char} {start : Nat} {cuts : List Nat}

/-- The pieces from a position on make up the text from there on. -/
theorem piecesFrom_flatten (text : Array Char) (start : Nat) (cuts : List Nat) :
    (piecesFrom text start cuts).flatten = text.toList.drop start := by
  induction cuts generalizing start with
  | nil =>
    rw [piecesFrom]
    split
    · rw [List.flatten_singleton, Array.toList_extract, List.extract_eq_take_drop, List.take_of_length_le (by simp)]
    · rename_i outside
      rw [List.drop_of_length_le (by simpa using outside)]
      rfl
  | cons cut rest ih =>
    rw [piecesFrom]
    split
    · rename_i later
      rw [List.flatten_cons, ih, Array.toList_extract, List.extract_eq_take_drop]
      have onward : text.toList.drop cut = (text.toList.drop start).drop (cut - start) := by
        rw [List.drop_drop, show start + (cut - start) = cut by omega]
      rw [onward, List.take_append_drop]
    · exact ih start

theorem piecesFrom_ne_nil (inside : ∀ cut ∈ cuts, cut ≤ text.size) {piece : List Char}
    (member : piece ∈ piecesFrom text start cuts) : piece ≠ [] := by
  induction cuts generalizing start with
  | nil =>
    rw [piecesFrom] at member
    split at member
    · rw [List.mem_singleton] at member
      subst member
      rw [← List.length_pos_iff]
      simp
      omega
    · cases member
  | cons cut rest ih =>
    have here := inside cut List.mem_cons_self
    have others := fun c later => inside c (List.mem_cons_of_mem cut later)
    rw [piecesFrom] at member
    split at member
    · rcases List.mem_cons.mp member with rfl | later
      · rw [← List.length_pos_iff]
        simp
        omega
      · exact ih others later
    · exact ih others member

/-- Pieces begin at the first position and at the cuts after it, as long as there is text left. -/
theorem mem_chunkStarts_piecesFrom (inside : ∀ cut ∈ cuts, cut ≤ text.size) (ordered : cuts.Pairwise (· ≤ ·))
    (pos : Nat) :
    pos ∈ chunkStarts start (piecesFrom text start cuts) ↔
      pos < text.size ∧ (pos = start ∨ start < pos ∧ pos ∈ cuts) := by
  induction cuts generalizing start with
  | nil =>
    rw [piecesFrom]
    split
    · simp only [chunkStarts, List.mem_singleton, List.not_mem_nil, and_false, or_false]
      omega
    · simp only [chunkStarts, List.not_mem_nil, and_false, or_false, false_iff]
      omega
  | cons cut rest ih =>
    have here := inside cut List.mem_cons_self
    obtain ⟨after, orderedToo⟩ := List.pairwise_cons.mp ordered
    have later := fun c among => inside c (List.mem_cons_of_mem cut among)
    rw [piecesFrom]
    split
    · rename_i further
      have length : start + (text.extract start cut).toList.length = cut := by
        simp
        omega
      rw [chunkStarts, length, List.mem_cons, ih later orderedToo, List.mem_cons]
      constructor
      · rintro (rfl | ⟨short, rfl | ⟨beyond, among⟩⟩)
        · exact ⟨by omega, .inl rfl⟩
        · exact ⟨short, .inr ⟨further, .inl rfl⟩⟩
        · exact ⟨short, .inr ⟨by omega, .inr among⟩⟩
      · rintro ⟨short, rfl | ⟨_, rfl | among⟩⟩
        · exact .inl rfl
        · exact .inr ⟨short, .inl rfl⟩
        · rcases Nat.eq_or_lt_of_le (after pos among) with same | beyond
          · exact .inr ⟨short, .inl same.symm⟩
          · exact .inr ⟨short, .inr ⟨beyond, among⟩⟩
    · rename_i behind
      rw [ih later orderedToo, List.mem_cons]
      constructor
      · rintro ⟨short, same | ⟨beyond, among⟩⟩
        · exact ⟨short, .inl same⟩
        · exact ⟨short, .inr ⟨beyond, .inr among⟩⟩
      · rintro ⟨short, same | ⟨beyond, rfl | among⟩⟩
        · exact ⟨short, .inl same⟩
        · exact absurd beyond behind
        · exact ⟨short, .inr ⟨beyond, among⟩⟩

end

/-! ## Blocks -/

/-- The positions where pieces of a text meet that make it up. -/
def borders (pieces : List String) : List Nat := (chunkStarts 0 (pieces.map String.toList)).tail

theorem mem_borders_iff {pieces : List String} (some_text : ∀ chunk ∈ pieces.map String.toList, chunk ≠ []) {cut : Nat} :
    cut ∈ borders pieces ↔ 0 < cut ∧ cut ∈ chunkStarts 0 (pieces.map String.toList) := by
  unfold borders
  have increasing := chunkStarts_increasing some_text 0
  cases pieces with
  | nil => simp [chunkStarts]
  | cons first rest =>
    simp only [List.map_cons, chunkStarts, List.tail_cons, List.mem_cons, List.pairwise_cons] at increasing ⊢
    constructor
    · exact fun later => ⟨increasing.1 cut later, .inr later⟩
    · rintro ⟨positive, rfl | later⟩
      · omega
      · exact later

/-- The blocks of a text make it up, and none is empty. They meet, each time once, at exactly those
positions inside of the text where matches begin; so an empty text has no blocks, and every block but
the first begins with a match. -/
theorem blocks_partition (p : Pattern) (text : String) :
    String.join (blocks p text) = text ∧
    (∀ block ∈ blocks p text, block ≠ "") ∧
    (borders (blocks p text)).Pairwise (· < ·) ∧
    (∀ cut, cut ∈ borders (blocks p text) ↔
      0 < cut ∧ cut < text.length ∧ cut ∈ matchStarts p text.toList.toArray) ∧
    (blocks p text = [] ↔ text = "") ∧
    (∀ before block after, blocks p text = before ++ block :: after →
      before = [] ∨ (String.join before).length ∈ matchStarts p text.toList.toArray) := by
  have inside : ∀ cut ∈ matchStarts p text.toList.toArray, cut ≤ text.toList.toArray.size := fun _ => matchStarts_le p
  have ordered := matchStarts_ordered p text.toList.toArray
  have pieces : (blocks p text).map String.toList = piecesFrom text.toList.toArray 0 (matchStarts p text.toList.toArray) := by
    simp [blocks]
  have whole : String.join (blocks p text) = text := by
    rw [← String.toList_inj, String.toList_join, List.flatMap_def, pieces, piecesFrom_flatten]
    rfl
  have some_text : ∀ block ∈ blocks p text, block ≠ "" := by
    rintro block member rfl
    exact piecesFrom_ne_nil inside (pieces ▸ List.mem_map.mpr ⟨"", member, rfl⟩) rfl
  have some_chars : ∀ chunk ∈ (blocks p text).map String.toList, chunk ≠ [] := by
    rw [pieces]
    exact fun _ => piecesFrom_ne_nil inside
  have meet (cut : Nat) : cut ∈ borders (blocks p text) ↔
      0 < cut ∧ cut < text.length ∧ cut ∈ matchStarts p text.toList.toArray := by
    rw [mem_borders_iff some_chars, pieces, mem_chunkStarts_piecesFrom inside ordered]
    simp only [List.size_toArray, String.length_toList]
    constructor
    · rintro ⟨positive, short, rfl | ⟨_, found⟩⟩
      · omega
      · exact ⟨positive, short, found⟩
    · rintro ⟨positive, short, found⟩
      exact ⟨positive, short, .inr ⟨positive, found⟩⟩
  refine ⟨whole, some_text, ?_, meet, ?_, ?_⟩
  · exact (chunkStarts_increasing some_chars 0).tail
  · constructor
    · intro nothing
      rw [← whole, nothing]
      rfl
    · rintro rfl
      cases split : blocks p "" with
      | nil => rfl
      | cons block rest =>
        rw [split, String.join_cons, String.append_eq_empty_iff] at whole
        exact absurd whole.1 (some_text block (split ▸ List.mem_cons_self))
  · intro before block after split
    cases before with
    | nil => exact .inl rfl
    | cons first rest =>
      have starts : (String.join (first :: rest)).length ∈ borders (blocks p text) := by
        rw [borders, split, List.cons_append, List.map_cons, chunkStarts, List.tail_cons, List.map_append,
          List.map_cons, chunkStarts_append, List.mem_append]
        refine .inr (List.mem_cons.mpr (.inl ?_))
        rw [← String.length_toList, String.toList_join, List.flatMap_cons, List.flatMap_def, List.length_append,
          Nat.zero_add]
      exact .inr ((meet _).mp starts).2.2

end Diagnosis
