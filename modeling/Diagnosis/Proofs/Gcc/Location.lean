import Diagnosis.Proofs.Block
import Diagnosis.Proofs.Pattern.Repetition
import Diagnosis.Proofs.Text.Numeral
import Diagnosis.Record

/-!
# Locations

The default patterns look for a line and a column that stand between colons,
with something before them on the same line. The delimiter matches where a line
begins that has them, so whole lines can be looked at one by one.
-/

namespace Diagnosis

deriving instance DecidableEq for Pattern.Node
deriving instance DecidableEq for Pattern
deriving instance DecidableEq for Rules

namespace Gcc

open Pattern

/-! ## The default patterns -/

/-- A stretch of a line. -/
def inLine (least : Nat) : Node := .many .greedy least none (.one (.any false))

/-- A number in digits of ASCII. -/
def number : Node := .many .greedy 1 none (.one (.set [.span 48 57] false .exact))

/-- Blanks of any kind, line ends included. -/
def blanks : Node := .many .greedy 0 none (.one (.set [.category ⟨.space, false, false⟩] false .exact))

/-- A colon. -/
def colon : Node := .one (.literal 58 false .exact)

/-- A colon, a line, a colon and a column, the two numbers remembered or not, and what ends them. -/
def located (line column : Option Nat) (last : Node) : Node :=
  .seq colon (.seq (number.marked line) (.seq colon (.seq (number.marked column) last)))

/-- What the default delimiter looks ahead for. -/
def delimiterNode : Node := .seq (.anchor .lineStart) (.seq ((inLine 1).marked none) (located none none colon))

/-- What follows a location in a record. -/
def statement : Node := .seq blanks (.seq ((inLine 1).marked (some 4)) (.seq colon (inLine 0)))

/-- The default record. -/
def recordNode : Node :=
  .seq (.anchor .lineStart)
    (.seq ((inLine 1).marked (some 1)) (located (some 2) (some 3) (.seq colon statement)))

/-- The rules of the default settings. -/
def rules : Rules := ⟨lookahead delimiterNode 0, ⟨recordNode, 4⟩, {}⟩

theorem rules_default : Rules.of {} = .ok rules := by
  have read : (Rules.of {}).toOption = some rules := by decide +kernel
  cases outcome : Rules.of {} with
  | error fault => rw [outcome] at read; cases read
  | ok found => rw [outcome] at read; cases read; rfl

/-! ## What the tests accept -/

theorem accepts_any (c : Char) : (Test.any false).accepts c.toNat = (c != '\n') := by
  have same : c.toNat = 10 ↔ c = '\n' := Char.toNat_inj (d := '\n')
  rw [Bool.eq_iff_iff]
  simp [Test.accepts, same]

theorem accepts_digit (c : Char) : (Test.set [.span 48 57] false .exact).accepts c.toNat = c.isDigit := by
  rw [Bool.eq_iff_iff]
  simp [Test.accepts, setHas, Member.cased, Member.has, Text.isDigit_iff]

theorem accepts_blank (c : Char) :
    (Test.set [.category ⟨.space, false, false⟩] false .exact).accepts c.toNat = Text.isBlank c := by
  simp [Test.accepts, setHas, Member.cased, Member.has, Category.has, Class.has]

theorem accepts_colon (c : Char) : (Test.literal 58 false .exact).accepts c.toNat = (c == ':') := by
  have same : c.toNat = 58 ↔ c = ':' := Char.toNat_inj (d := ':')
  rw [Bool.eq_iff_iff]
  simp [Test.accepts, sameLetter, same]

theorem takeWhile_append_single {front : List Char} (single : '\n' ∉ front) (more : List Char) :
    (front ++ more).takeWhile (· != '\n') = front ++ more.takeWhile (· != '\n') :=
  List.takeWhile_append_of_pos fun _ member => bne_iff_ne.mpr fun same => single (same ▸ member)

theorem takeWhile_single {cs : List Char} (single : '\n' ∉ cs) : cs.takeWhile (· != '\n') = cs := by
  simpa using takeWhile_append_single single []

theorem stretch_any (cs : List Char) : (Test.any false).stretch cs = (cs.takeWhile (· != '\n')).length := by
  simp only [Test.stretch, accepts_any]

theorem stretch_digit (cs : List Char) :
    (Test.set [.span 48 57] false .exact).stretch cs = (cs.takeWhile Char.isDigit).length := by
  simp only [Test.stretch, accepts_digit]

theorem stretch_blank (cs : List Char) :
    (Test.set [.category ⟨.space, false, false⟩] false .exact).stretch cs = (cs.takeWhile Text.isBlank).length := by
  simp only [Test.stretch, accepts_blank]

theorem run_colon (text : Array Char) (after : Continuation) (p : Place) :
    colon.run text after p = if (p.rest text).head? = some ':' then after (p.forward 1) else none := by
  cases begins : p.rest text with
  | nil => simp [colon, run_one_nil _ _ begins]
  | cons c cs => simp [colon, run_one_cons _ _ begins, accepts_colon]

theorem mem_take_of_le {pass : Char → Bool} {cs : List Char} {k : Nat} (small : k ≤ (cs.takeWhile pass).length) :
    ∀ c ∈ cs.take k, pass c = true := by
  intro c member
  rw [← List.takeWhile_append_dropWhile (p := pass) (l := cs), List.take_append_of_le_length small] at member
  exact List.all_eq_true.mp List.all_takeWhile c (List.mem_of_mem_take member)

/-! ## A number and a colon -/

/-- The digits at the front of a text that a colon ends, and the text after the colon. -/
def numbered? (cs : List Char) : Option (List Char × List Char) :=
  match cs.takeWhile Char.isDigit, cs.dropWhile Char.isDigit with
  | c :: digits, ':' :: rest => some (c :: digits, rest)
  | _, _ => none

theorem numbered?_eq_some_iff {cs digits rest : List Char} :
    numbered? cs = some (digits, rest) ↔
      digits ≠ [] ∧ (∀ c ∈ digits, c.isDigit = true) ∧ cs = digits ++ ':' :: rest := by
  constructor
  · intro found
    unfold numbered? at found
    split at found
    · rename_i c others behind front ends
      cases found
      refine ⟨by simp, ?_, ?_⟩
      · intro d member
        exact List.all_eq_true.mp List.all_takeWhile d (front ▸ member)
      · rw [← front, ← ends, List.takeWhile_append_dropWhile]
    · cases found
  · rintro ⟨some_digit, all_digits, rfl⟩
    cases digits with
    | nil => exact absurd rfl some_digit
    | cons c others =>
      rw [numbered?, List.takeWhile_append_of_pos all_digits, List.dropWhile_append_of_pos all_digits]
      simp

/-- A line feed and what comes after it make no difference to a number before it. -/
theorem numbered?_append_lineFeed (cs more : List Char) :
    numbered? (cs ++ '\n' :: more) = (numbered? cs).map fun (digits, rest) => (digits, rest ++ '\n' :: more) := by
  cases outcome : numbered? cs with
  | some found =>
    obtain ⟨digits, rest⟩ := found
    obtain ⟨some_digit, all_digits, rfl⟩ := numbered?_eq_some_iff.mp outcome
    exact numbered?_eq_some_iff.mpr ⟨some_digit, all_digits, by simp⟩
  | none =>
    cases longer : numbered? (cs ++ '\n' :: more) with
    | none => rfl
    | some found =>
      obtain ⟨digits, rest⟩ := found
      obtain ⟨some_digit, all_digits, same⟩ := numbered?_eq_some_iff.mp longer
      rcases List.append_eq_append_iff.mp same with ⟨behind, inside, ends⟩ | ⟨behind, inside, ends⟩
      · cases behind with
        | nil => cases ends
        | cons c behind =>
          cases ends
          have digit := all_digits '\n' (by simp [inside])
          cases digit
      · cases behind with
        | nil => cases ends
        | cons c behind =>
          cases ends
          rw [numbered?_eq_some_iff.mpr ⟨some_digit, all_digits, inside⟩] at outcome
          cases outcome

/-- A number that a colon ends is taken as a whole. -/
theorem run_number (text : Array Char) (mark : Option Nat) (after : Continuation) (p : Place) :
    (number.marked mark).run text (colon.run text after) p =
      match numbered? (p.rest text) with
      | none => none
      | some (digits, _) => after ((p.past digits.length mark).forward 1) := by
  have stretch := stretch_digit (p.rest text)
  cases outcome : numbered? (p.rest text) with
  | none =>
    refine (run_marked_eq_none_iff mark).mpr fun k enough small => ?_
    rw [stretch] at small
    have longEnough := (List.takeWhile_sublist Char.isDigit (l := p.rest text)).length_le
    rw [run_colon, Place.rest_past, if_neg]
    intro ends
    obtain ⟨rest, behind⟩ := List.head?_eq_some_iff.mp ends
    have found : numbered? (p.rest text) = some ((p.rest text).take k, rest) := by
      refine numbered?_eq_some_iff.mpr ⟨?_, mem_take_of_le small, ?_⟩
      · rw [← List.length_pos_iff, List.length_take]
        omega
      · rw [← behind, List.take_append_drop]
    rw [found] at outcome
    cases outcome
  | some found =>
    obtain ⟨digits, rest⟩ := found
    obtain ⟨some_digit, all_digits, same⟩ := numbered?_eq_some_iff.mp outcome
    have whole : (Test.set [.span 48 57] false .exact).stretch (p.rest text) = digits.length := by
      rw [stretch, same, List.takeWhile_append_of_pos all_digits]
      simp
    have enough : 1 ≤ digits.length := List.length_pos_iff.mpr some_digit
    rw [number, run_marked_eq_last mark (by omega), whole, run_colon, Place.rest_past, same]
    · simp
    · intro k _ small
      rw [whole] at small
      rw [run_colon, Place.rest_past, same, List.drop_append_of_le_length (by omega), List.drop_eq_getElem_cons small]
      have digit : (digits[k]).isDigit = true := all_digits _ (List.getElem_mem small)
      rw [if_neg]
      intro ends
      rw [Option.some.inj ends] at digit
      cases digit

/-! ## Locations -/

/-- The line and the column at the front of a text, each with a colon before it and after it, and
the text behind them. -/
def located? : List Char → Option (List Char × List Char × List Char)
  | ':' :: cs => do
    let (line, behind) ← numbered? cs
    let (column, rest) ← numbered? behind
    return (line, column, rest)
  | _ => none

/-- The text of a location. -/
def locationText (line column : List Char) : List Char := ':' :: line ++ ':' :: column ++ [':']

theorem located?_eq_some_iff {cs line column rest : List Char} :
    located? cs = some (line, column, rest) ↔
      (line ≠ [] ∧ ∀ c ∈ line, c.isDigit = true) ∧ (column ≠ [] ∧ ∀ c ∈ column, c.isDigit = true) ∧
        cs = locationText line column ++ rest := by
  unfold located?
  split
  · rename_i cs
    simp only [Option.bind_eq_bind, Option.pure_def, Option.bind_eq_some_iff, Option.some.injEq, Prod.exists,
      Prod.mk.injEq, numbered?_eq_some_iff]
    constructor
    · rintro ⟨digits, behind, ⟨some_line, all_line, rfl⟩, others, rest', ⟨some_column, all_column, rfl⟩, rfl, rfl, rfl⟩
      exact ⟨⟨some_line, all_line⟩, ⟨some_column, all_column⟩, by simp [locationText]⟩
    · rintro ⟨⟨some_line, all_line⟩, ⟨some_column, all_column⟩, same⟩
      refine ⟨line, column ++ ':' :: rest, ⟨some_line, all_line, ?_⟩, column, rest, ⟨some_column, all_column, rfl⟩,
        rfl, rfl, rfl⟩
      simpa [locationText] using same
  · rename_i other
    constructor
    · intro found
      cases found
    · rintro ⟨_, _, same⟩
      exact absurd same (other _)

/-- The place behind a location whose numbers have so many digits. -/
def behindLocation (p : Place) (lineMark columnMark : Option Nat) (line column : Nat) : Place :=
  (((((p.forward 1).past line lineMark).forward 1).past column columnMark).forward 1)

theorem run_located (text : Array Char) {last : Node} {after ends : Continuation}
    (closed : last.run text after = colon.run text ends) (lineMark columnMark : Option Nat) (p : Place) :
    (located lineMark columnMark last).run text after p =
      match located? (p.rest text) with
      | none => none
      | some (line, column, _) => ends (behindLocation p lineMark columnMark line.length column.length) := by
  rw [located, run_seq, run_seq, run_seq, run_seq, closed, run_colon]
  cases begins : p.rest text with
  | nil => rfl
  | cons c cs =>
    have onward : (p.forward 1).rest text = cs := by simp [begins]
    by_cases opening : c = ':'
    · subst opening
      rw [List.head?_cons, if_pos rfl, run_number, onward, located?]
      cases first : numbered? cs with
      | none => rfl
      | some found =>
        obtain ⟨line, behind⟩ := found
        obtain ⟨_, _, rfl⟩ := numbered?_eq_some_iff.mp first
        have further : (((p.forward 1).past line.length lineMark).forward 1).rest text = behind := by simp [onward]
        simp only [run_number, further, Option.bind_eq_bind, Option.bind_some]
        cases numbered? behind with
        | none => rfl
        | some found => rfl
    · rw [List.head?_cons, if_neg (by simpa using opening), located?]
      simpa using opening

theorem rest_behindLocation {text : Array Char} {p : Place} {line column rest : List Char}
    (found : located? (p.rest text) = some (line, column, rest)) (lineMark columnMark : Option Nat) :
    (behindLocation p lineMark columnMark line.length column.length).rest text = rest := by
  obtain ⟨_, _, same⟩ := located?_eq_some_iff.mp found
  simp [behindLocation, same, locationText]

/-! ## Lines with a location -/

/-- Whether something begins in the first line of a text, or ends it. -/
def firstLineHas (begins : List Char → Bool) : List Char → Bool
  | [] => begins []
  | c :: cs => begins (c :: cs) || (c != '\n' && firstLineHas begins cs)

theorem firstLineHas_iff {begins : List Char → Bool} {cs : List Char} :
    firstLineHas begins cs = true ↔ ∃ k ≤ (cs.takeWhile (· != '\n')).length, begins (cs.drop k) = true := by
  induction cs with
  | nil => simp [firstLineHas]
  | cons c cs ih =>
    rw [firstLineHas, Bool.or_eq_true, Bool.and_eq_true, ih]
    constructor
    · rintro (here | ⟨inside, k, small, later⟩)
      · exact ⟨0, Nat.zero_le _, here⟩
      · exact ⟨k + 1, by simpa [inside] using small, later⟩
    · rintro ⟨k, small, found⟩
      cases k with
      | zero => exact .inl found
      | succ k =>
        by_cases inside : (c != '\n') = true
        · exact .inr ⟨inside, k, by simpa [inside] using small, found⟩
        · simp [inside] at small

/-- Whether the first line of a text has a location with something before it. -/
def delimits : List Char → Bool
  | [] => false
  | c :: cs => c != '\n' && firstLineHas (fun behind => (located? behind).isSome) cs

theorem delimits_iff {cs : List Char} :
    delimits cs = true ↔
      ∃ k, 1 ≤ k ∧ k ≤ (cs.takeWhile (· != '\n')).length ∧ (located? (cs.drop k)).isSome = true := by
  cases cs with
  | nil => simp [delimits, located?]
  | cons c cs =>
    rw [delimits, Bool.and_eq_true, firstLineHas_iff]
    constructor
    · rintro ⟨inside, k, small, found⟩
      exact ⟨k + 1, by omega, by simpa [inside] using small, found⟩
    · rintro ⟨k, enough, small, found⟩
      obtain ⟨k, rfl⟩ := Nat.exists_eq_add_of_le' enough
      by_cases inside : (c != '\n') = true
      · exact ⟨inside, k, by simpa [inside] using small, found⟩
      · simp [inside] at small

/-- The delimiter stands where a line begins that has a location. -/
theorem standsAt_delimiter (cs : List Char) (pos : Nat) :
    delimiterNode.standsAt 0 cs.toArray pos =
      ((pos == 0 || cs[pos - 1]? == some '\n') && delimits (cs.drop pos)) := by
  let p : Place := ⟨pos, Array.replicate (2 * 0) none⟩
  have rest : p.rest cs.toArray = cs.drop pos := rfl
  have anchored : Anchor.holds cs.toArray pos .lineStart = (pos == 0 || cs[pos - 1]? == some '\n') := by
    simp [Anchor.holds]
  have body : (((inLine 1).marked none).run cs.toArray ((located none none colon).run cs.toArray some) p).isSome =
      delimits (cs.drop pos) := by
    rw [Bool.eq_iff_iff, delimits_iff, Option.isSome_iff_ne_none, ne_eq, inLine, run_marked_eq_none_iff, stretch_any,
      rest]
    constructor
    · intro somewhere
      refine Classical.byContradiction fun nowhere => somewhere fun k enough small => ?_
      rw [run_located _ rfl, Place.rest_past, rest]
      cases found : located? ((cs.drop pos).drop k) with
      | none => rfl
      | some place => exact absurd ⟨k, enough, small, by rw [found]; rfl⟩ nowhere
    · rintro ⟨k, enough, small, found⟩ fails
      have failed := fails k enough small
      rw [run_located _ rfl, Place.rest_past, rest] at failed
      obtain ⟨place, found⟩ := Option.isSome_iff_exists.mp found
      rw [found] at failed
      cases failed
  rw [Node.standsAt, delimiterNode, run_seq, Node.run, run_seq, anchored, ← body]
  cases (pos == 0 || cs[pos - 1]? == some '\n') <;> rfl

theorem located?_append_lineFeed (cs more : List Char) :
    (located? (cs ++ '\n' :: more)).isSome = (located? cs).isSome := by
  cases cs with
  | nil => rfl
  | cons c cs =>
    by_cases opening : c = ':'
    · subst opening
      rw [List.cons_append, located?, located?, numbered?_append_lineFeed]
      cases numbered? cs with
      | none => rfl
      | some found =>
        simp only [Option.map_some, Option.bind_eq_bind, Option.bind_some, numbered?_append_lineFeed]
        cases numbered? found.2 <;> rfl
    · simp [located?, opening]

theorem delimits_append_lineFeed {line : List Char} (single : '\n' ∉ line) (more : List Char) :
    delimits (line ++ '\n' :: more) = delimits line := by
  have later (cs : List Char) (inside : '\n' ∉ cs) :
      firstLineHas (fun behind => (located? behind).isSome) (cs ++ '\n' :: more) =
        firstLineHas (fun behind => (located? behind).isSome) cs := by
    induction cs with
    | nil => simp [firstLineHas, located?]
    | cons c cs ih =>
      have same := located?_append_lineFeed (c :: cs) more
      rw [List.cons_append] at same
      rw [List.cons_append, firstLineHas, firstLineHas, same, ih (List.not_mem_of_not_mem_cons inside)]
  cases line with
  | nil => simp [delimits]
  | cons c line => rw [List.cons_append, delimits, delimits, later line (List.not_mem_of_not_mem_cons single)]

/-! ## Where output is cut -/

/-- The positions where blocks of some output begin, besides the first. -/
def starts (output : List Char) : List Nat := matchStarts rules.delimiter output.toArray

theorem starts_eq (output : List Char) :
    starts output = (List.range (output.length + 1)).filter fun pos =>
      (pos == 0 || output[pos - 1]? == some '\n') && delimits (output.drop pos) := by
  rw [starts, rules, matchStarts_lookahead, List.size_toArray]
  exact List.filter_congr fun pos _ => standsAt_delimiter output pos

theorem starts_nil : starts [] = [] := by
  simp [starts_eq, delimits]

/-- Within its first line, output is cut at most where it begins. -/
theorem starts_within {front : List Char} (single : '\n' ∉ front) (rest : List Char) :
    ((List.range (front.length + 1)).filter fun pos =>
        (pos == 0 || (front ++ rest)[pos - 1]? == some '\n') && delimits ((front ++ rest).drop pos)) =
      if delimits (front ++ rest) then [0] else [] := by
  rw [List.range_succ_eq_map, List.filter_cons, List.filter_map, List.filter_eq_nil_iff.mpr]
  · simp
  · intro pos member
    have inside : pos < front.length := List.mem_range.mp member
    have other : front[pos]? ≠ some '\n' := fun same => single (List.mem_of_getElem? same)
    simp [List.getElem?_append_left inside, other]

theorem starts_single {line : List Char} (single : '\n' ∉ line) :
    starts line = if delimits line then [0] else [] := by
  have within := starts_within single []
  rw [List.append_nil] at within
  rw [starts_eq, within]

/-- Lines are looked at one by one. -/
theorem starts_line {line : List Char} (single : '\n' ∉ line) (more : List Char) :
    starts (line ++ '\n' :: more) =
      (if delimits line then [0] else []) ++ (starts more).map (line.length + 1 + ·) := by
  have split : (line ++ '\n' :: more).length + 1 = line.length + 1 + (more.length + 1) := by simp; omega
  rw [starts_eq, split, List.range_add, List.filter_append, starts_within single, delimits_append_lineFeed single,
    List.filter_map, starts_eq]
  refine congrArg _ (congrArg _ (List.filter_congr fun pos _ => ?_))
  have before : (line ++ '\n' :: more)[line.length + 1 + pos - 1]? = ('\n' :: more)[pos]? := by
    rw [List.getElem?_append_right (by omega), show line.length + 1 + pos - 1 - line.length = pos by omega]
  have behind : (line ++ '\n' :: more).drop (line.length + 1 + pos) = more.drop pos := by
    rw [Nat.add_assoc, List.drop_length_add_append, Nat.add_comm 1, List.drop_succ_cons]
  have later : (line.length + 1 + pos == 0) = false := by simp
  simp only [Function.comp, before, behind, later]
  cases pos <;> simp

end Gcc

end Diagnosis
