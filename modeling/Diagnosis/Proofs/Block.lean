import Diagnosis.Block

/-!
# Where a text is cut

A pattern that only looks ahead takes no text, so its matches are all positions
where what it looks for stands. Cut at the beginnings of its chunks, a text falls
into these chunks.
-/

namespace Diagnosis

/-! ## Matches of a lookahead -/

namespace Pattern

/-- Whether a node matches at a position of a text. -/
def Node.standsAt (node : Node) (groups : Nat) (text : Array Char) (pos : Nat) : Bool :=
  (node.run text some ⟨pos, Array.replicate (2 * groups) none⟩).isSome

/-- The pattern that looks ahead for a node. -/
def lookahead (node : Node) (groups : Nat) : Pattern := ⟨.ahead false node, groups⟩

variable (node : Node) (groups : Nat) (text : Array Char)

theorem matchAt_lookahead (pos : Nat) (mayBeEmpty : Bool) :
    ((lookahead node groups).matchAt text pos mayBeEmpty).isSome = (mayBeEmpty && node.standsAt groups text pos) ∧
    ∀ place, (lookahead node groups).matchAt text pos mayBeEmpty = some place → place.pos = pos := by
  unfold matchAt lookahead Node.standsAt fresh
  simp only [Node.run]
  cases node.run text some ⟨pos, Array.replicate (2 * groups) none⟩ with
  | none => simp
  | some q => cases mayBeEmpty <;> simp [Place.moved]

/-- A search finds the first position where the node stands, and the match there is empty. -/
theorem searchUpTo_lookahead (n pos : Nat) :
    match (List.range' pos n).filter (node.standsAt groups text) with
    | [] => (lookahead node groups).searchUpTo text pos true n = none
    | i :: rest => ∃ f, (lookahead node groups).searchUpTo text pos true n = some f ∧ f.start = i ∧ f.stop = i ∧
        rest = (List.range' (i + 1) (pos + n - (i + 1))).filter (node.standsAt groups text) := by
  induction n generalizing pos with
  | zero => rfl
  | succ n ih =>
    obtain ⟨found, empty⟩ := matchAt_lookahead node groups text pos true
    rw [Bool.true_and] at found
    rw [List.range'_succ, List.filter_cons]
    cases stands : node.standsAt groups text pos with
    | true =>
      rw [stands, Option.isSome_iff_exists] at found
      obtain ⟨place, matched⟩ := found
      refine ⟨⟨pos, place⟩, ?_, rfl, empty place matched, ?_⟩
      · rw [searchUpTo, matched]
      · rw [show pos + (n + 1) - (pos + 1) = n by omega]
    | false =>
      rw [stands, Option.isSome_eq_false_iff, Option.isNone_iff_eq_none] at found
      rw [if_neg Bool.false_ne_true, searchUpTo, found, show pos + (n + 1) = pos + 1 + n by omega]
      exact ih (pos + 1)

/-- The positions that are left for a search: those from a position on, or those after it. -/
def remaining (text : Array Char) (pos : Nat) (mayBeEmpty : Bool) : List Nat :=
  if mayBeEmpty then List.range' pos (text.size + 1 - pos) else List.range' (pos + 1) (text.size + 1 - (pos + 1))

theorem searchFrom_lookahead (pos : Nat) (mayBeEmpty : Bool) :
    match (remaining text pos mayBeEmpty).filter (node.standsAt groups text) with
    | [] => (lookahead node groups).searchFrom text pos mayBeEmpty = none
    | i :: rest => ∃ f, (lookahead node groups).searchFrom text pos mayBeEmpty = some f ∧ f.start = i ∧ f.stop = i ∧
        rest = (remaining text i false).filter (node.standsAt groups text) := by
  unfold searchFrom remaining
  have bounded (first n i : Nat) (rest : List Nat) (same : first + n = text.size + 1)
      (left : rest = (List.range' (i + 1) (first + n - (i + 1))).filter (node.standsAt groups text)) :
      rest = (List.range' (i + 1) (text.size + 1 - (i + 1))).filter (node.standsAt groups text) := by
    rw [left, same]
  cases mayBeEmpty with
  | true =>
    have search := searchUpTo_lookahead node groups text (text.size + 1 - pos) pos
    simp only [↓reduceIte, Bool.false_eq_true]
    by_cases inside : pos ≤ text.size
    · split at search
      · exact search
      · obtain ⟨f, found, start, stop, others⟩ := search
        exact ⟨f, found, start, stop, bounded _ _ _ _ (by omega) others⟩
    · rw [show text.size + 1 - pos = 0 by omega]
      rfl
  | false =>
    have search := searchUpTo_lookahead node groups text (text.size + 1 - (pos + 1))
      (pos + 1)
    obtain ⟨nothing, _⟩ := matchAt_lookahead node groups text pos false
    rw [Bool.false_and, Option.isSome_eq_false_iff, Option.isNone_iff_eq_none] at nothing
    simp only [↓reduceIte, Bool.false_eq_true]
    by_cases inside : pos ≤ text.size
    · rw [show text.size + 1 - pos = text.size + 1 - (pos + 1) + 1 by omega, searchUpTo, nothing]
      split at search
      · exact search
      · obtain ⟨f, found, start, stop, others⟩ := search
        exact ⟨f, found, start, stop, bounded _ _ _ _ (by omega) others⟩
    · rw [show text.size + 1 - pos = 0 by omega, show text.size + 1 - (pos + 1) = 0 by omega]
      rfl

theorem findAllFrom_lookahead (fuel pos : Nat) (mayBeEmpty : Bool)
    (fuelled : ((remaining text pos mayBeEmpty).filter (node.standsAt groups text)).length < fuel) :
    ((lookahead node groups).findAllFrom text fuel pos mayBeEmpty).map (·.start) =
      (remaining text pos mayBeEmpty).filter (node.standsAt groups text) := by
  induction fuel generalizing pos mayBeEmpty with
  | zero => omega
  | succ fuel ih =>
    have search := searchFrom_lookahead node groups text pos mayBeEmpty
    rw [findAllFrom]
    split at search
    · rename_i none_left
      rw [none_left, search]
      rfl
    · rename_i i rest left
      obtain ⟨f, found, rfl, stop, others⟩ := search
      rw [left, List.length_cons, others] at fuelled
      have onward := ih f.start false (Nat.lt_of_succ_lt_succ fuelled)
      rw [left, found, others, ← onward]
      simp [stop]

end Pattern

/-- A lookahead matches where what it looks for stands. -/
theorem matchStarts_lookahead (node : Pattern.Node) (groups : Nat) (text : Array Char) :
    matchStarts (Pattern.lookahead node groups) text =
      (List.range (text.size + 1)).filter (node.standsAt groups text) := by
  have all : Pattern.remaining text 0 true = List.range (text.size + 1) := by
    rw [Pattern.remaining, if_pos rfl, Nat.sub_zero, List.range_eq_range']
  have few := List.length_filter_le (node.standsAt groups text) (Pattern.remaining text 0 true)
  rw [matchStarts, Pattern.findAll, Pattern.findAllFrom_lookahead node groups text, all]
  rw [all, List.length_range] at few
  rw [all]
  omega

/-! ## Chunks -/

/-- The positions where chunks of text begin that follow each other from a position on. -/
def chunkStarts (pos : Nat) : List (List Char) → List Nat
  | [] => []
  | chunk :: rest => pos :: chunkStarts (pos + chunk.length) rest

theorem chunkStarts_add (n pos : Nat) (chunks : List (List Char)) :
    chunkStarts (n + pos) chunks = (chunkStarts pos chunks).map (n + ·) := by
  induction chunks generalizing pos with
  | nil => rfl
  | cons chunk rest ih => rw [chunkStarts, chunkStarts, List.map_cons, Nat.add_assoc, ih]

/-- A text that is cut where its chunks begin falls into them, and into what stands before them. -/
theorem piecesFrom_chunkStarts (done front : List Char) (chunks : List (List Char)) (some_text : ∀ c ∈ chunks, c ≠ []) :
    piecesFrom (done ++ front ++ chunks.flatten).toArray done.length
        (chunkStarts (done.length + front.length) chunks) =
      (if front = [] then [] else [front]) ++ chunks := by
  induction chunks generalizing done front with
  | nil =>
    rw [chunkStarts, piecesFrom]
    cases front with
    | nil => simp
    | cons c rest => simp
  | cons chunk rest ih =>
    have chunked : chunk ≠ [] := some_text chunk List.mem_cons_self
    have onward (done' : List Char) := ih done' chunk fun c member => some_text c (List.mem_cons_of_mem _ member)
    rw [chunkStarts, piecesFrom]
    cases front with
    | nil =>
      have later := onward done
      rw [if_neg chunked] at later
      simpa using later
    | cons c front =>
      have later := onward (done ++ c :: front)
      rw [if_neg chunked] at later
      rw [if_pos (by simp), Array.toList_extract, List.extract_eq_take_drop]
      simp only [List.length_append, List.append_assoc, List.flatten_cons] at later ⊢
      rw [later]
      simp

end Diagnosis
