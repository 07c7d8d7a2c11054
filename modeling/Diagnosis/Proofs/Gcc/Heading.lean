import Diagnosis.Proofs.Gcc.Location
import Diagnosis.Proofs.Report

/-!
# Headings

The first line of a message names a file, a line and a column, and says how bad
it is. The default record takes the last location that something with a colon
follows, and what is said up to the last colon of the line.
-/

namespace Diagnosis

namespace Pattern

theorem matchAt_mayBeEmpty (p : Pattern) (text : Array Char) (pos : Nat) :
    p.matchAt text pos true = p.node.run text some (p.fresh pos) := by
  simp [matchAt]

theorem search_of_first {p : Pattern} {text : Array Char} {place : Place}
    (found : p.node.run text some (p.fresh 0) = some place) : p.search text = some ⟨0, place⟩ := by
  rw [search, searchFrom, Nat.sub_zero, searchUpTo, matchAt_mayBeEmpty, found]

theorem search_eq_none {p : Pattern} {text : Array Char}
    (fails : ∀ pos, p.node.run text some (p.fresh pos) = none) : p.search text = none := by
  have nowhere (n pos : Nat) : p.searchUpTo text pos true n = none := by
    induction n generalizing pos with
    | zero => rfl
    | succ n ih => rw [searchUpTo, matchAt_mayBeEmpty, fails, ih]
  exact nowhere _ _

end Pattern

namespace Gcc

open Pattern
open Diagnosis.Text (readInt? isBlank)

/-! ## What follows a location -/

/-- Nothing is said where no colon comes. -/
theorem statement_eq_none {text : Array Char} {p : Place} (after : Continuation)
    (mute : ':' ∉ (p.rest text).drop 1) : statement.run text after p = none := by
  rw [statement, run_seq]
  refine (run_marked_eq_none_iff none).mpr fun i _ _ => ?_
  rw [run_seq]
  refine (run_marked_eq_none_iff _).mpr fun j enough _ => ?_
  rw [run_seq, run_colon, if_neg]
  intro ends
  have member := List.mem_of_mem_head? ends
  rw [Place.rest_past, Place.rest_past, List.drop_drop] at member
  exact mute ((List.drop_sublist_drop_left _ (by omega)).subset member)

theorem run_inLine (text : Array Char) (p : Place) :
    (inLine 0).run text some p = some (p.forward ((p.rest text).takeWhile (· != '\n')).length) := by
  have stretch := stretch_any (p.rest text)
  refine run_marked_eq_some none (Nat.zero_le _) (Nat.le_of_eq stretch.symm) rfl fun j beyond small => ?_
  omega

theorem head?_drop_ne_colon {cs : List Char} (absent : ':' ∉ cs.takeWhile (· != '\n')) {k : Nat}
    (inside : k ≤ (cs.takeWhile (· != '\n')).length) : (cs.drop k).head? ≠ some ':' := by
  induction cs generalizing k with
  | nil => simp
  | cons c cs ih =>
    by_cases ends : c = '\n'
    · subst ends
      obtain rfl : k = 0 := by simpa using inside
      simp
    · rw [List.takeWhile_cons_of_pos (by simpa using ends)] at absent inside
      cases k with
      | zero =>
        intro begins
        exact absent (List.mem_cons.mpr (.inl (Option.some.inj begins).symm))
      | succ k => exact ih (List.not_mem_of_not_mem_cons absent) (Nat.le_of_succ_le_succ inside)

/-- What is said ends at the last colon of the line. -/
theorem said_eq_some {text : Array Char} {p : Place} {said ending : List Char}
    (begins : p.rest text = said ++ ':' :: ending) (some_word : said ≠ []) (single : '\n' ∉ said)
    (last : ':' ∉ ending.takeWhile (· != '\n')) :
    (Node.seq ((inLine 1).marked (some 4)) (.seq colon (inLine 0))).run text some p =
      some (((p.past said.length (some 4)).forward 1).forward (ending.takeWhile (· != '\n')).length) := by
  have stretch : (Test.any false).stretch (p.rest text) = said.length + ((ending.takeWhile (· != '\n')).length + 1) := by
    rw [stretch_any, begins, takeWhile_append_single single]
    simp
  have enough : 1 ≤ said.length := List.length_pos_iff.mpr some_word
  rw [run_seq]
  refine run_marked_eq_some _ enough (by omega) ?_ ?_
  · have behind : (p.past said.length (some 4)).rest text = ':' :: ending := by
      rw [Place.rest_past, begins, List.drop_left]
    rw [run_seq, run_colon, behind, List.head?_cons, if_pos rfl, run_inLine, Place.rest_forward, behind]
    rfl
  · intro j beyond small
    obtain ⟨i, rfl⟩ : ∃ i, j = said.length + (i + 1) := ⟨j - said.length - 1, by omega⟩
    have behind : (p.past (said.length + (i + 1)) (some 4)).rest text = ending.drop i := by
      rw [Place.rest_past, begins, List.drop_length_add_append, List.drop_succ_cons]
    rw [run_seq, run_colon, behind, if_neg (head?_drop_ne_colon last (by omega))]

theorem statement_eq_some {text : Array Char} {p : Place} {said ending : List Char}
    (begins : p.rest text = ' ' :: (said ++ ':' :: ending)) (spoken : said.head?.any (! isBlank ·) = true)
    (single : '\n' ∉ said) (last : ':' ∉ ending.takeWhile (· != '\n')) :
    statement.run text some p = some ((((p.forward 1).past said.length (some 4)).forward 1).forward
      (ending.takeWhile (· != '\n')).length) := by
  have one_blank : (Test.set [.category ⟨.space, false, false⟩] false .exact).stretch (p.rest text) = 1 := by
    have space : isBlank ' ' = true := by decide
    rw [stretch_blank, begins]
    cases said with
    | nil => cases spoken
    | cons c words =>
      have unblank : isBlank c = false := by simpa using spoken
      simp [space, unblank]
  have some_word : said ≠ [] := by
    rintro rfl
    cases spoken
  rw [statement, run_seq]
  refine run_marked_eq_some none (k := 1) (Nat.zero_le _) (Nat.le_of_eq one_blank.symm) ?_ ?_
  · exact said_eq_some (by simp [Place.past, begins]) some_word single last
  · intro j beyond small
    omega

/-- The record matches only where the delimiter stands. -/
theorem search_eq_none_of_uncut {cs : List Char} (uncut : starts cs = []) :
    rules.record.search cs.toArray = none := by
  rw [starts_eq, List.filter_eq_nil_iff] at uncut
  refine search_eq_none fun pos => ?_
  show recordNode.run cs.toArray some ⟨pos, _⟩ = none
  rw [recordNode, run_seq, Node.run, run_seq]
  split
  · rename_i anchored
    have unlocated : ¬ delimits (cs.drop pos) = true := by
      by_cases inside : pos < cs.length + 1
      · have nowhere := uncut pos (List.mem_range.mpr inside)
        simp only [Anchor.holds, List.getElem?_toArray] at anchored
        rwa [anchored, Bool.true_and] at nowhere
      · rw [List.drop_of_length_le (by omega)]
        exact Bool.false_ne_true
    refine (run_marked_eq_none_iff _).mpr fun k enough small => ?_
    rw [stretch_any] at small
    rw [run_located _ (run_seq ..), Place.rest_past]
    cases found : located? ((Place.mk pos _).rest cs.toArray |>.drop k) with
    | none => rfl
    | some numbers => exact absurd (delimits_iff.mpr ⟨k, enough, small, by rw [found]; rfl⟩) unlocated
  · rfl

theorem extract_eq_none {block : String} (nowhere : rules.record.search block.toList.toArray = none) :
    rules.extract block = none := by
  rw [Rules.extract_eq, Rules.named?, Rules.captured, nowhere]
  rfl

/-! ## Locations that are taken for others -/

/-- Whether a location in the first line of a text is followed by some character and a colon. -/
def relocates (cs : List Char) : Bool :=
  firstLineHas (fun behind => (located? behind).any fun (_, _, rest) => (rest.drop 1).contains ':') cs

theorem located?_of_ne {c : Char} (other : c ≠ ':') (cs : List Char) : located? (c :: cs) = none := by
  simp [located?, other]

theorem located?_of_not_numbered {cs : List Char} (unnumbered : numbered? cs = none) : located? (':' :: cs) = none := by
  rw [located?, unnumbered]
  rfl

theorem numbered?_of_not_isDigit {c : Char} (other : c.isDigit = false) (cs : List Char) :
    numbered? (c :: cs) = none := by
  simp [numbered?, other]

theorem relocates_cons_of_not_located {c : Char} {cs : List Char} (single : c ≠ '\n')
    (unlocated : located? (c :: cs) = none) : relocates (c :: cs) = relocates cs := by
  rw [relocates, firstLineHas, unlocated]
  simp [relocates, single]

theorem relocates_append {front : List Char} (plain : ∀ c ∈ front, c ≠ ':' ∧ c ≠ '\n') (cs : List Char) :
    relocates (front ++ cs) = relocates cs := by
  induction front with
  | nil => rfl
  | cons c front ih =>
    obtain ⟨other, single⟩ := plain c List.mem_cons_self
    rw [List.cons_append, relocates_cons_of_not_located single (located?_of_ne other _)]
    exact ih fun d member => plain d (List.mem_cons_of_mem _ member)

theorem plain_of_digits {digits : List Char} (all_digits : ∀ c ∈ digits, c.isDigit = true) :
    ∀ c ∈ digits, c ≠ ':' ∧ c ≠ '\n' := by
  intro c member
  have digit := all_digits c member
  constructor <;> rintro rfl <;> cases digit

theorem relocates_eq_false {cs : List Char} (absent : ':' ∉ cs.takeWhile (· != '\n')) : relocates cs = false := by
  induction cs with
  | nil => rfl
  | cons c cs ih =>
    by_cases ends : c = '\n'
    · subst ends
      rfl
    · rw [List.takeWhile_cons_of_pos (by simpa using ends)] at absent
      have other : c ≠ ':' := fun same => absent (List.mem_cons.mpr (.inl same.symm))
      rw [relocates_cons_of_not_located ends (located?_of_ne other cs)]
      exact ih (List.not_mem_of_not_mem_cons absent)

/-- Behind a file, the location and the severity do not move it. -/
theorem relocates_location {line column : List Char} (line_digits : line ≠ [] ∧ ∀ c ∈ line, c.isDigit = true)
    (column_digits : column ≠ [] ∧ ∀ c ∈ column, c.isDigit = true) (rest : List Char) :
    relocates ((locationText line column ++ ' ' :: rest).drop 1) = relocates rest := by
  have second : numbered? (column ++ ':' :: ' ' :: rest) = some (column, ' ' :: rest) :=
    numbered?_eq_some_iff.mpr ⟨column_digits.1, column_digits.2, rfl⟩
  have third : numbered? (' ' :: rest) = none := numbered?_of_not_isDigit (by decide) rest
  have unlocated : located? (':' :: (column ++ ':' :: ' ' :: rest)) = none := by
    rw [located?, second]
    simp [third]
  calc relocates ((locationText line column ++ ' ' :: rest).drop 1)
    _ = relocates (line ++ ':' :: (column ++ ':' :: ' ' :: rest)) := by simp [locationText]
    _ = relocates (':' :: (column ++ ':' :: ' ' :: rest)) := relocates_append (plain_of_digits line_digits.2) _
    _ = relocates (column ++ ':' :: ' ' :: rest) := relocates_cons_of_not_located (by decide) unlocated
    _ = relocates (':' :: ' ' :: rest) := relocates_append (plain_of_digits column_digits.2) _
    _ = relocates (' ' :: rest) := relocates_cons_of_not_located (by decide) (located?_of_not_numbered third)
    _ = relocates rest := relocates_cons_of_not_located (by decide) (located?_of_ne (by decide) rest)

/-! ## Headings -/

/-- A file, a line, a column and what is said, and later lines. -/
structure Heading where
  file : List Char
  line : List Char
  column : List Char
  /-- What is said up to the last colon of the line. -/
  said : List Char
  /-- What comes after this colon. -/
  ending : List Char
  file_single : '\n' ∉ file
  line_digits : line ≠ [] ∧ ∀ c ∈ line, c.isDigit = true
  column_digits : column ≠ [] ∧ ∀ c ∈ column, c.isDigit = true
  spoken : said.head?.any (! isBlank ·) = true
  said_single : '\n' ∉ said
  last_colon : ':' ∉ ending.takeWhile (· != '\n')
  settled : relocates (said ++ ':' :: ending) = false

namespace Heading

/-- What follows the file. -/
def behindFile (h : Heading) : List Char := locationText h.line h.column ++ ' ' :: (h.said ++ ':' :: h.ending)

/-- The text of a heading. -/
def text (h : Heading) : List Char := h.file ++ h.behindFile

theorem located_behindFile (h : Heading) :
    located? h.behindFile = some (h.line, h.column, ' ' :: (h.said ++ ':' :: h.ending)) :=
  located?_eq_some_iff.mpr ⟨h.line_digits, h.column_digits, rfl⟩

/-- The place where the record begins. -/
def first : Place := ⟨0, Array.replicate (2 * 4) none⟩

theorem size_marks_first : first.marks.size = 8 := rfl

theorem rest_first (cs : List Char) : first.rest cs.toArray = cs := rfl

theorem run_record_eq (cs : List Char) :
    recordNode.run cs.toArray some first = ((inLine 1).marked (some 1)).run cs.toArray
      ((Gcc.located (some 2) (some 3) (.seq colon statement)).run cs.toArray some) first := by
  rw [recordNode, run_seq, Node.run, run_seq, if_pos (show Anchor.holds _ _ .lineStart = true from rfl)]

/-- The place of the line of a heading. -/
def lineAt (h : Heading) : Place := (first.past h.file.length (some 1)).forward 1

/-- The place of the column of a heading. -/
def columnAt (h : Heading) : Place := (h.lineAt.past h.line.length (some 2)).forward 1

/-- The place behind the location of a heading. -/
def located (h : Heading) : Place := (h.columnAt.past h.column.length (some 3)).forward 1

theorem rest_lineAt (h : Heading) :
    h.lineAt.rest h.text.toArray = h.line ++ ':' :: (h.column ++ ':' :: ' ' :: (h.said ++ ':' :: h.ending)) := by
  rw [lineAt, Place.rest_forward, Place.rest_past, rest_first, text, List.drop_left]
  simp [behindFile, locationText]

theorem rest_columnAt (h : Heading) :
    h.columnAt.rest h.text.toArray = h.column ++ ':' :: ' ' :: (h.said ++ ':' :: h.ending) := by
  rw [columnAt, Place.rest_forward, Place.rest_past, rest_lineAt, List.drop_left]
  rfl

theorem rest_located (h : Heading) : h.located.rest h.text.toArray = ' ' :: (h.said ++ ':' :: h.ending) := by
  rw [located, Place.rest_forward, Place.rest_past, rest_columnAt, List.drop_left]
  rfl

/-- The place where the record ends in a heading. -/
def matched (h : Heading) : Place :=
  (((h.located.forward 1).past h.said.length (some 4)).forward 1).forward (h.ending.takeWhile (· != '\n')).length

theorem takeWhile_text (h : Heading) :
    h.text.takeWhile (· != '\n') = h.file ++ ':' :: (h.behindFile.drop 1).takeWhile (· != '\n') := by
  rw [text, takeWhile_append_single h.file_single]
  simp [behindFile, locationText]

theorem stretch_text (h : Heading) :
    (Test.any false).stretch h.text =
      h.file.length + (((h.behindFile.drop 1).takeWhile (· != '\n')).length + 1) := by
  rw [stretch_any, takeWhile_text]
  simp

/-- The delimiter stands at a heading that names a file. -/
theorem delimits_text (h : Heading) (named : h.file ≠ []) : delimits h.text = true := by
  have enough : 1 ≤ h.file.length := List.length_pos_iff.mpr named
  have stretch := h.stretch_text
  rw [stretch_any] at stretch
  refine delimits_iff.mpr ⟨h.file.length, enough, by omega, ?_⟩
  rw [text, List.drop_left, h.located_behindFile]
  rfl

/-- No location behind the file of a heading is taken for it. -/
theorem fails_behindFile (h : Heading) {j : Nat} (behind : h.file.length < j)
    (inside : j ≤ (Test.any false).stretch h.text) :
    (Gcc.located (some 2) (some 3) (.seq colon statement)).run h.text.toArray some (first.past j (some 1)) = none := by
  rw [stretch_text] at inside
  rw [run_located _ (run_seq ..), Place.rest_past, rest_first]
  cases found : located? (h.text.drop j) with
  | none => rfl
  | some numbers =>
    obtain ⟨line, column, rest⟩ := numbers
    refine statement_eq_none _ fun colon_follows => ?_
    rw [rest_behindLocation (by rw [Place.rest_past, rest_first, found])] at colon_follows
    obtain ⟨k, rfl⟩ : ∃ k, j = h.file.length + (k + 1) := ⟨j - h.file.length - 1, by omega⟩
    have dropped : h.text.drop (h.file.length + (k + 1)) = (h.behindFile.drop 1).drop k := by
      rw [text, List.drop_length_add_append, List.drop_drop, Nat.add_comm 1]
    have moved : relocates (h.behindFile.drop 1) = true :=
      firstLineHas_iff.mpr ⟨k, by omega, by rw [← dropped, found]; simpa using colon_follows⟩
    rw [behindFile, relocates_location h.line_digits h.column_digits, h.settled] at moved
    cases moved

/-- The record matches a heading that names a file. -/
theorem run_record (h : Heading) (named : h.file ≠ []) :
    recordNode.run h.text.toArray some first = some h.matched := by
  have enough : 1 ≤ h.file.length := List.length_pos_iff.mpr named
  rw [run_record_eq]
  refine run_marked_eq_some _ enough ?_ ?_ fun j behind inside => ?_
  · rw [rest_first, stretch_text]
    omega
  · have onward : (first.past h.file.length (some 1)).rest h.text.toArray = h.behindFile := by
      rw [Place.rest_past, rest_first, text, List.drop_left]
    rw [run_located _ (run_seq ..), onward, h.located_behindFile]
    exact statement_eq_some h.rest_located h.spoken h.said_single h.last_colon
  · rw [rest_first] at inside
    exact h.fails_behindFile behind inside

/-- The record matches nowhere in a line that names no file. -/
theorem search_unnamed (h : Heading) (unnamed : h.file = []) (single : '\n' ∉ h.text) :
    rules.record.search h.text.toArray = none := by
  refine search_eq_none fun pos => ?_
  show recordNode.run h.text.toArray some ⟨pos, _⟩ = none
  cases pos with
  | zero =>
    refine (run_record_eq h.text).trans ((run_marked_eq_none_iff _).mpr fun j enough inside => ?_)
    exact h.fails_behindFile (by rw [unnamed]; exact enough) inside
  | succ pos =>
    rw [recordNode, run_seq, Node.run, run_seq]
    have elsewhere : Anchor.holds h.text.toArray (pos + 1) .lineStart = false := by
      have other : h.text[pos]? ≠ some '\n' := fun same => single (List.mem_of_getElem? same)
      simp [Anchor.holds, other]
    simp [elsewhere]

/-- What the groups of the record take in a heading. -/
theorem captured (h : Heading) (named : h.file ≠ []) :
    rules.captured (.ofList h.text) 1 = some (.ofList h.file) ∧ rules.captured (.ofList h.text) 2 = some (.ofList h.line) ∧
      rules.captured (.ofList h.text) 3 = some (.ofList h.column) ∧
        rules.captured (.ofList h.text) 4 = some (.ofList h.said) := by
  have found : rules.record.search h.text.toArray = some ⟨0, h.matched⟩ := search_of_first (h.run_record named)
  have group (index : Int) : rules.captured (.ofList h.text) index =
      (⟨0, h.matched⟩ : Found).group? h.text.toArray index.toNat := by
    rw [Rules.captured, String.toList_ofList, found, Option.bind_some]
  have file : (first.rest h.text.toArray).take h.file.length = h.file := by
    rw [rest_first, text, List.take_left]
  have line : (((first.past h.file.length (some 1)).forward 1).rest h.text.toArray).take h.line.length = h.line := by
    have front := h.rest_lineAt
    rw [lineAt] at front
    rw [front, List.take_left]
  have column : (h.columnAt.rest h.text.toArray).take h.column.length = h.column := by
    rw [rest_columnAt, List.take_left]
  have said : ((h.located.forward 1).rest h.text.toArray).take h.said.length = h.said := by
    rw [Place.rest_forward, rest_located, List.drop_one, List.tail_cons, List.take_left]
  rw [columnAt, lineAt] at column
  rw [located, columnAt, lineAt] at said
  simp only [group, matched, located, columnAt, lineAt, group?_forward]
  refine ⟨?_, ?_, ?_, ?_⟩
  all_goals simp (disch := simp [Place.size_marks_past, size_marks_first]) only [Int.toNat_one, Int.reduceToNat,
    group?_past_of_ne, group?_past_self, group?_forward, line, column, said]
  rw [group?_past_self _ (by decide) (by simp [size_marks_first]), file]

/-- The fields of a heading that names a file. -/
theorem extract_named (h : Heading) (named : h.file ≠ []) :
    rules.extract (.ofList h.text) = (readInt? h.line).map fun line =>
      ⟨.ofList h.file, line, (readInt? h.column).getD 0, .ofList h.said, .ofList h.text⟩ := by
  obtain ⟨file, line, column, said⟩ := h.captured named
  have indices : rules.indices = {} := rfl
  rw [Rules.extract_eq, Rules.named?, Rules.columnOf, Rules.severityTextOf, indices]
  simp only [file, line, column, said, Option.bind_eq_bind, Option.bind_some, Option.pure_def, String.toList_ofList,
    Option.getD_some]
  cases readInt? h.line <;> rfl

theorem extract_unnamed (h : Heading) (unnamed : h.file = []) (single : '\n' ∉ h.text) :
    rules.extract (.ofList h.text) = none := by
  refine extract_eq_none ?_
  rw [String.toList_ofList]
  exact h.search_unnamed unnamed single

end Heading

end Gcc

end Diagnosis
