import Diagnosis.Pattern.Search

/-!
# Repetitions of one character

A greedy repetition of a test of one character takes as many characters as pass
it, and gives back one after the other until what follows matches. So it finds
the farthest place from which the rest of the pattern goes through.
-/

namespace Diagnosis.Pattern

/-! ## Places and the text after them -/

/-- The text that begins at a place. -/
def Place.rest (text : Array Char) (p : Place) : List Char := text.toList.drop p.pos

namespace Place

variable {text : Array Char} {p : Place}

@[simp] theorem forward_zero (p : Place) : p.forward 0 = p := rfl

@[simp] theorem forward_forward (p : Place) (m n : Nat) : (p.forward m).forward n = p.forward (m + n) := by
  simp [forward, Nat.add_assoc]

@[simp] theorem rest_forward (text : Array Char) (p : Place) (n : Nat) :
    (p.forward n).rest text = (p.rest text).drop n := by
  simp [rest, forward]

@[simp] theorem marks_forward (p : Place) (n : Nat) : (p.forward n).marks = p.marks := rfl

@[simp] theorem rest_opens (text : Array Char) (p : Place) (number : Nat) :
    (p.opens number).rest text = p.rest text := rfl

@[simp] theorem rest_closes (text : Array Char) (p : Place) (number : Nat) :
    (p.closes number).rest text = p.rest text := rfl

theorem getElem?_eq_head? (text : Array Char) (p : Place) : text[p.pos]? = (p.rest text).head? := by
  simp [rest, List.head?_drop]

end Place

/-! ## One character -/

/-- How many characters at the front of a text pass a test one after the other. -/
def Test.stretch (t : Test) (cs : List Char) : Nat := (cs.takeWhile fun c => t.accepts c.toNat).length

theorem run_one_cons {text : Array Char} {p : Place} {c : Char} {cs : List Char} (t : Test) (after : Continuation)
    (begins : p.rest text = c :: cs) :
    (Node.one t).run text after p = if t.accepts c.toNat then after (p.forward 1) else none := by
  rw [Node.run, p.getElem?_eq_head?, begins]
  rfl

theorem run_one_nil {text : Array Char} {p : Place} (t : Test) (after : Continuation) (ends : p.rest text = []) :
    (Node.one t).run text after p = none := by
  rw [Node.run, p.getElem?_eq_head?, ends]
  rfl

/-! ## Many characters -/

/-- The first success from the farthest of some places down to the nearest: places so many
characters on, but at least so many. -/
def farthest (after : Continuation) : Nat → Nat → Continuation
  | least, 0, p => if least = 0 then after p else none
  | least, n + 1, p =>
    match farthest after (least - 1) n (p.forward 1) with
    | some q => some q
    | none => if least = 0 then after p else none

theorem farthest_eq_none_iff {after : Continuation} {least n : Nat} {p : Place} :
    farthest after least n p = none ↔ ∀ k, least ≤ k → k ≤ n → after (p.forward k) = none := by
  induction n generalizing least p with
  | zero =>
    rw [farthest]
    constructor
    · intro fails k enough small
      obtain rfl : k = 0 := by omega
      simpa [show least = 0 by omega] using fails
    · intro fails
      by_cases zero : least = 0
      · simpa [zero] using fails 0 (by omega) (by omega)
      · simp [zero]
  | succ n ih =>
    rw [farthest]
    constructor
    · intro fails k enough small
      cases first : farthest after (least - 1) n (p.forward 1) with
      | some q => rw [first] at fails; cases fails
      | none =>
        rw [first] at fails
        cases k with
        | zero => simpa [show least = 0 by omega] using fails
        | succ k =>
          have later := ih.mp first k (by omega) (by omega)
          rwa [Place.forward_forward, Nat.add_comm] at later
    · intro fails
      have later : farthest after (least - 1) n (p.forward 1) = none := by
        refine ih.mpr fun k enough small => ?_
        rw [Place.forward_forward, Nat.add_comm]
        exact fails (k + 1) (by omega) (by omega)
      rw [later]
      by_cases zero : least = 0
      · simpa [zero] using fails 0 (by omega) (by omega)
      · simp [zero]

/-- A success counts if all places beyond it fail. -/
theorem farthest_eq_some {after : Continuation} {least n k : Nat} {p q : Place} (enough : least ≤ k) (small : k ≤ n)
    (succeeds : after (p.forward k) = some q) (fails : ∀ j, k < j → j ≤ n → after (p.forward j) = none) :
    farthest after least n p = some q := by
  induction n generalizing least k p with
  | zero =>
    obtain rfl : k = 0 := by omega
    rw [farthest, if_pos (by omega)]
    exact succeeds
  | succ n ih =>
    rw [farthest]
    cases k with
    | zero =>
      have later : farthest after (least - 1) n (p.forward 1) = none := by
        refine farthest_eq_none_iff.mpr fun j _ small => ?_
        rw [Place.forward_forward, Nat.add_comm]
        exact fails (j + 1) (by omega) (by omega)
      rw [later]
      simpa [show least = 0 by omega] using succeeds
    | succ k =>
      rw [ih (k := k) (by omega) (by omega)]
      · rw [Place.forward_forward, Nat.add_comm]
        exact succeeds
      · intro j beyond small
        rw [Place.forward_forward, Nat.add_comm]
        exact fails (j + 1) (by omega) (by omega)

/-- A success comes from a place beyond which all fail. -/
theorem exists_of_farthest {after : Continuation} {least n : Nat} {p q : Place}
    (found : farthest after least n p = some q) :
    ∃ k, least ≤ k ∧ k ≤ n ∧ after (p.forward k) = some q ∧ ∀ j, k < j → j ≤ n → after (p.forward j) = none := by
  induction n generalizing least p with
  | zero =>
    rw [farthest] at found
    split at found
    · exact ⟨0, by omega, Nat.le_refl 0, found, fun j beyond small => absurd beyond (by omega)⟩
    · cases found
  | succ n ih =>
    have onward (j : Nat) : (p.forward 1).forward j = p.forward (j + 1) := by
      rw [Place.forward_forward, Nat.add_comm]
    rw [farthest] at found
    cases first : farthest after (least - 1) n (p.forward 1) with
    | some q' =>
      simp only [first, Option.some.injEq] at found
      subst found
      obtain ⟨k, enough, small, succeeds, fails⟩ := ih first
      refine ⟨k + 1, by omega, by omega, onward k ▸ succeeds, fun j beyond inside => ?_⟩
      obtain ⟨j, rfl⟩ := Nat.exists_eq_add_of_le' (show 1 ≤ j by omega)
      exact onward j ▸ fails j (by omega) (by omega)
    | none =>
      simp only [first] at found
      split at found
      · refine ⟨0, by omega, Nat.zero_le _, found, fun j beyond inside => ?_⟩
        obtain ⟨j, rfl⟩ := Nat.exists_eq_add_of_le' (show 1 ≤ j by omega)
        exact onward j ▸ farthest_eq_none_iff.mp first j (by omega) (by omega)
      · cases found

/-- Where only the farthest place can succeed, it decides. -/
theorem farthest_eq_last {after : Continuation} {least n : Nat} {p : Place} (enough : least ≤ n)
    (fails : ∀ k, least ≤ k → k < n → after (p.forward k) = none) :
    farthest after least n p = after (p.forward n) := by
  cases last : after (p.forward n) with
  | some q => exact farthest_eq_some enough (Nat.le_refl n) last fun j beyond small => absurd beyond (by omega)
  | none =>
    refine farthest_eq_none_iff.mpr fun k atLeast small => ?_
    rcases Nat.lt_or_eq_of_le small with before | rfl
    · exact fails k atLeast before
    · exact last

/-- Rounds of a test of one character go on as long as characters pass it. -/
theorem greedily_one {text : Array Char} {t : Test} {after : Continuation} {least : Nat} {fuel count : Nat}
    {last : Option Nat} {p : Place} (fresh : ∀ pos, last = some pos → pos < p.pos)
    (fuelled : t.stretch (p.rest text) < fuel) :
    greedily ((Node.one t).run text) least none after fuel count last p =
      farthest after (least - count) (t.stretch (p.rest text)) p := by
  induction fuel generalizing count last p with
  | zero => omega
  | succ fuel ih =>
    have moving : (last != some p.pos) = true := by
      rw [bne_iff_ne]
      intro same
      exact absurd (fresh p.pos same) (Nat.lt_irrefl _)
    rw [greedily]
    cases begins : p.rest text with
    | nil =>
      simp only [run_one_nil t _ begins, below, moving, Bool.true_and, ↓reduceIte]
      by_cases more : count < least
      · simp [more, Test.stretch, farthest, show least - count ≠ 0 by omega]
      · simp [more, Test.stretch, farthest, show least - count = 0 by omega]
    | cons c cs =>
      by_cases passes : t.accepts c.toNat = true
      · have shorter : t.stretch (c :: cs) = t.stretch ((p.forward 1).rest text) + 1 := by
          simp [Test.stretch, passes, begins]
        rw [begins, shorter] at fuelled
        have onward (last' : Option Nat) (fresh' : ∀ pos, last' = some pos → pos < (p.forward 1).pos) :=
          @ih (count + 1) last' (p.forward 1) fresh' (Nat.lt_of_succ_lt_succ fuelled)
        simp only [run_one_cons t _ begins, passes, ↓reduceIte, below, moving, Bool.true_and]
        rw [shorter, farthest]
        have onePast : least - (count + 1) = least - count - 1 := by omega
        by_cases more : count < least
        · have kept : ∀ pos, last = some pos → pos < (p.forward 1).pos := fun pos same =>
            Nat.lt_succ_of_lt (fresh pos same)
          have further := onward last kept
          rw [onePast] at further
          cases found : farthest after (least - count - 1) (t.stretch ((p.forward 1).rest text)) (p.forward 1) <;>
            simp only [if_pos more, further, found, if_neg (show ¬ least - count = 0 by omega)]
        · have marked : ∀ pos, some p.pos = some pos → pos < (p.forward 1).pos := by
            rintro pos ⟨⟩
            exact Nat.lt_succ_self _
          have further := onward _ marked
          rw [onePast] at further
          cases found : farthest after (least - count - 1) (t.stretch ((p.forward 1).rest text)) (p.forward 1) <;>
            simp only [if_neg more, further, found, if_pos (show least - count = 0 by omega)]
      · have stops : t.stretch (c :: cs) = 0 := by simp [Test.stretch, passes]
        simp only [run_one_cons t _ begins, passes, Bool.false_eq_true, ↓reduceIte, below, moving, Bool.true_and]
        rw [stops, farthest]
        by_cases more : count < least
        · rw [if_pos more, if_neg (show ¬ least - count = 0 by omega)]
        · rw [if_neg more, if_pos (show least - count = 0 by omega)]

theorem stretch_le_length (t : Test) (cs : List Char) : t.stretch cs ≤ cs.length :=
  (List.takeWhile_sublist _).length_le

/-- A greedy repetition of a test finds the farthest place from which what follows matches. -/
theorem run_many_one (text : Array Char) (t : Test) (least : Nat) (after : Continuation) (p : Place) :
    (Node.many .greedy least none (.one t)).run text after p =
      farthest after least (t.stretch (p.rest text)) p := by
  have fuelled : t.stretch (p.rest text) < roundLimit text least p.pos := by
    have bounded := stretch_le_length t (p.rest text)
    rw [Place.rest, List.length_drop, Array.length_toList] at bounded
    rw [Place.rest, roundLimit]
    omega
  rw [Node.run, greedily_one (by simp) fuelled, Nat.sub_zero]

theorem run_seq (text : Array Char) (first second : Node) (after : Continuation) :
    (Node.seq first second).run text after = first.run text (second.run text after) := by
  funext p
  rw [Node.run]

/-! ## Repetitions that are remembered -/

/-- A node whose text is remembered under a number, or just the node. -/
def Node.marked (node : Node) : Option Nat → Node
  | none => node
  | some number => .group number node

/-- The place behind so many characters that are remembered under a number, or just passed. -/
def Place.past (p : Place) (n : Nat) : Option Nat → Place
  | none => p.forward n
  | some number => ((p.opens number).forward n).closes number

@[simp] theorem Place.rest_past (text : Array Char) (p : Place) (n : Nat) (mark : Option Nat) :
    (p.past n mark).rest text = (p.rest text).drop n := by
  cases mark <;> simp [past]

theorem Place.size_marks_past (p : Place) (n : Nat) (mark : Option Nat) :
    (p.past n mark).marks.size = p.marks.size := by
  cases mark <;> simp [past, opens, closes, forward]

theorem Place.span?_past_self {p : Place} {number : Nat} (n : Nat) (first : 1 ≤ number)
    (known : 2 * number ≤ p.marks.size) : (p.past n (some number)).span? number = some (p.pos, p.pos + n) := by
  have begun : 2 * number - 2 < p.marks.size := by omega
  have ended : 2 * number - 1 < p.marks.size := by omega
  have apart : 2 * number - 1 ≠ 2 * number - 2 := by omega
  simp [span?, past, opens, closes, forward, begun, ended, apart]

theorem Place.span?_past_of_ne {p : Place} {number other : Nat} (n : Nat) (first : 1 ≤ number) (second : 1 ≤ other)
    (differs : number ≠ other) : (p.past n (some number)).span? other = p.span? other := by
  have unmarked (mark : Nat) (elsewhere : mark ≠ 2 * number - 2 ∧ mark ≠ 2 * number - 1) :
      (p.past n (some number)).marks[mark]? = p.marks[mark]? := by
    simp [past, opens, closes, forward, elsewhere.1.symm, elsewhere.2.symm]
  rw [span?, span?, unmarked _ (by omega), unmarked _ (by omega)]

/-- What a group has taken is the text it was moved over. -/
theorem group?_past_self {text : Array Char} {p : Place} {start number : Nat} (n : Nat) (first : 1 ≤ number)
    (known : 2 * number ≤ p.marks.size) :
    (⟨start, p.past n (some number)⟩ : Found).group? text number = some (String.ofList ((p.rest text).take n)) := by
  have taken : (text.extract p.pos (p.pos + n)).toList = (p.rest text).take n := by
    rw [Array.toList_extract, List.extract_eq_take_drop, Nat.add_sub_cancel_left]
    rfl
  rw [Found.group?, Place.span?_past_self n first known, ← taken]
  rfl

theorem group?_past_of_ne {text : Array Char} {p : Place} {start number other : Nat} (n : Nat) (first : 1 ≤ number)
    (second : 1 ≤ other) (differs : number ≠ other) :
    (⟨start, p.past n (some number)⟩ : Found).group? text other = (⟨start, p⟩ : Found).group? text other := by
  rw [Found.group?, Found.group?, Place.span?_past_of_ne n first second differs]

@[simp] theorem group?_forward (text : Array Char) (p : Place) (start n number : Nat) :
    (⟨start, p.forward n⟩ : Found).group? text number = (⟨start, p⟩ : Found).group? text number := rfl

section

variable {text : Array Char} {t : Test} {least : Nat} (mark : Option Nat) {after : Continuation} {p q : Place}

theorem run_marked_eq_none_iff :
    ((Node.many .greedy least none (.one t)).marked mark).run text after p = none ↔
      ∀ k, least ≤ k → k ≤ t.stretch (p.rest text) → after (p.past k mark) = none := by
  cases mark with
  | none => rw [Node.marked, run_many_one, farthest_eq_none_iff]; rfl
  | some number => rw [Node.marked, Node.run, run_many_one, farthest_eq_none_iff]; rfl

theorem run_marked_eq_some {k : Nat} (enough : least ≤ k) (small : k ≤ t.stretch (p.rest text))
    (succeeds : after (p.past k mark) = some q)
    (fails : ∀ j, k < j → j ≤ t.stretch (p.rest text) → after (p.past j mark) = none) :
    ((Node.many .greedy least none (.one t)).marked mark).run text after p = some q := by
  cases mark with
  | none => rw [Node.marked, run_many_one]; exact farthest_eq_some enough small succeeds fails
  | some number => rw [Node.marked, Node.run, run_many_one]; exact farthest_eq_some enough small succeeds fails

theorem exists_of_run_marked
    (found : ((Node.many .greedy least none (.one t)).marked mark).run text after p = some q) :
    ∃ k, least ≤ k ∧ k ≤ t.stretch (p.rest text) ∧ after (p.past k mark) = some q ∧
      ∀ j, k < j → j ≤ t.stretch (p.rest text) → after (p.past j mark) = none := by
  cases mark with
  | none => rw [Node.marked, run_many_one] at found; exact exists_of_farthest found
  | some number => rw [Node.marked, Node.run, run_many_one] at found; exact exists_of_farthest found

theorem run_marked_eq_last (enough : least ≤ t.stretch (p.rest text))
    (fails : ∀ k, least ≤ k → k < t.stretch (p.rest text) → after (p.past k mark) = none) :
    ((Node.many .greedy least none (.one t)).marked mark).run text after p =
      after (p.past (t.stretch (p.rest text)) mark) := by
  cases mark with
  | none => rw [Node.marked, run_many_one]; exact farthest_eq_last enough fails
  | some number => rw [Node.marked, Node.run, run_many_one]; exact farthest_eq_last enough fails

end

end Diagnosis.Pattern
