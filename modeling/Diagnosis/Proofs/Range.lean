import Mathlib.Data.List.Basic
import Diagnosis.Range

/-!
# Lines and the breaks between them

A text is its lines joined by the breaks that end them. Which of the three breaks stands
between two lines does not matter for the lines, as long as a carriage return and a line
feed with an empty line between them are not taken for one break.
-/

namespace Diagnosis

namespace Text

/-- What ends a line. -/
inductive LineBreak where
  /-- A carriage return with a line feed after it. -/
  | pair
  | carriageReturn
  | lineFeed
  deriving DecidableEq, Repr

/-- The characters of a break. -/
def LineBreak.chars : LineBreak → List Char
  | .pair => ['\r', '\n']
  | .carriageReturn => ['\r']
  | .lineFeed => ['\n']

/-- A text that has been taken apart: its first line, and its later ones with the breaks in
front of them. -/
structure Broken where
  first : List Char
  later : List (LineBreak × List Char)
  deriving DecidableEq, Repr

namespace Broken

/-- The lines. -/
def lines (b : Broken) : List (List Char) := b.first :: b.later.map Prod.snd

/-- The later lines joined with their breaks. -/
def joined (later : List (LineBreak × List Char)) : List Char := later.flatMap fun (s, l) => s.chars ++ l

/-- The lines joined with the breaks between them. -/
def text (b : Broken) : List Char := b.first ++ joined b.later

/-- No two breaks with an empty line between them are one break. -/
def Apart (later : List (LineBreak × List Char)) : Prop :=
  later.IsChain fun a b => ¬ (a = (.carriageReturn, []) ∧ b.1 = .lineFeed)

instance (later : List (LineBreak × List Char)) : Decidable (Apart later) :=
  inferInstanceAs (Decidable (List.IsChain _ _))

end Broken

/-- A line holds no character of a break. -/
def Unbroken (l : List Char) : Prop := '\r' ∉ l ∧ '\n' ∉ l

instance (l : List Char) : Decidable (Unbroken l) := inferInstanceAs (Decidable (_ ∧ _))

open Broken

/-! ## Breaks that stand apart -/

theorem unbroken_nil : Unbroken [] := by decide

theorem Unbroken.cons {c : Char} {l : List Char} (other : ¬ (c = '\n' ∨ c = '\r')) (unbroken : Unbroken l) :
    Unbroken (c :: l) := by
  obtain ⟨feed, carriage⟩ := not_or.mp other
  constructor
  · simp [Ne.symm carriage, unbroken.1]
  · simp [Ne.symm feed, unbroken.2]

theorem Unbroken.of_cons {c : Char} {l : List Char} (unbroken : Unbroken (c :: l)) :
    ¬ (c = '\n' ∨ c = '\r') ∧ Unbroken l := by
  simp only [Unbroken, List.mem_cons, not_or] at unbroken ⊢
  exact ⟨⟨Ne.symm unbroken.2.1, Ne.symm unbroken.1.1⟩, unbroken.1.2, unbroken.2.2⟩

/-- A line feed that comes next begins the text of the later lines. -/
theorem Unbroken.feed {l more after : List Char} (unbroken : Unbroken l) (next : l ++ more = '\n' :: after) :
    l = [] ∧ more = '\n' :: after := by
  cases l with
  | nil => exact ⟨rfl, next⟩
  | cons c l =>
    cases next
    exact absurd List.mem_cons_self unbroken.2

/-- Breaks stand apart if none goes on with what is joined after it. -/
theorem apart_cons_iff {s : LineBreak} {l : List Char} {later : List (LineBreak × List Char)} (unbroken : Unbroken l) :
    Apart ((s, l) :: later) ↔
      Apart later ∧ (s = .carriageReturn → ∀ after, l ++ joined later ≠ '\n' :: after) := by
  cases later with
  | nil =>
    refine ⟨fun _ => ⟨.nil, fun _ after next => ?_⟩, fun _ => .singleton _⟩
    cases (unbroken.feed next).2
  | cons p later =>
    obtain ⟨s', l'⟩ := p
    have joins : joined ((s', l') :: later) = s'.chars ++ (l' ++ joined later) := by simp [joined]
    rw [Apart, List.isChain_cons_cons, and_comm]
    refine and_congr_right fun _ => ?_
    constructor
    · rintro separate rfl after next
      obtain ⟨rfl, feeds⟩ := unbroken.feed next
      rw [joins] at feeds
      cases s' with
      | pair => cases feeds
      | carriageReturn => cases feeds
      | lineFeed => exact separate ⟨rfl, rfl⟩
    · rintro ends ⟨same, feed⟩
      cases same
      refine ends rfl (l' ++ joined later) ?_
      rw [joins, show s' = .lineFeed from feed]
      rfl

/-! ## Taking a text apart -/

/-- A text is its lines joined by breaks that stand apart. -/
theorem exists_joined (cs : List Char) :
    ∃ later, (splitLines cs).2 = later.map Prod.snd ∧ (splitLines cs).1 ++ joined later = cs ∧ Apart later ∧
      Unbroken (splitLines cs).1 ∧ ∀ p ∈ later, Unbroken p.2 := by
  fun_induction splitLines cs with
  | case1 => exact ⟨[], rfl, rfl, .nil, unbroken_nil, by simp⟩
  | case2 rest l ls split ih =>
    rw [split] at ih
    obtain ⟨later, rfl, text, apart, whole, others⟩ := ih
    refine ⟨(.pair, l) :: later, rfl, ?_, (apart_cons_iff whole).mpr ⟨apart, nofun⟩, unbroken_nil,
      by simpa [whole] using others⟩
    simpa [joined, LineBreak.chars] using text
  | case3 c rest single l ls split ends ih =>
    rw [split] at ih
    obtain ⟨later, rfl, text, apart, whole, others⟩ := ih
    obtain ⟨s, chars, carriage⟩ : ∃ s : LineBreak, s.chars = [c] ∧ (s = .carriageReturn → c = '\r') := by
      rcases ends with rfl | rfl
      · exact ⟨.lineFeed, rfl, nofun⟩
      · exact ⟨.carriageReturn, rfl, fun _ => rfl⟩
    refine ⟨(s, l) :: later, rfl, ?_, (apart_cons_iff whole).mpr ⟨apart, fun same after next => ?_⟩, unbroken_nil,
      by simpa [whole] using others⟩
    · simpa [joined, chars] using text
    · exact single after (carriage same) (text.symm.trans next)
  | case4 c rest single l ls split other ih =>
    rw [split] at ih
    obtain ⟨later, lines, text, apart, whole, others⟩ := ih
    exact ⟨later, lines, by simpa using text, apart, whole.cons other, others⟩

/-! ## Joining lines -/

theorem splitLines_append {l : List Char} (unbroken : Unbroken l) (more : List Char) :
    splitLines (l ++ more) = (l ++ (splitLines more).1, (splitLines more).2) := by
  induction l with
  | nil => rfl
  | cons c l ih =>
    obtain ⟨other, after⟩ := unbroken.of_cons
    rw [List.cons_append, splitLines.eq_3 _ _ (fun _ same _ => other (.inr same))]
    simp [ih after, other]

theorem lines_append {l : List Char} (unbroken : Unbroken l) (more : List Char) :
    Text.lines (l ++ more) = (l ++ (splitLines more).1) :: (splitLines more).2 := by
  rw [Text.lines, splitLines_append unbroken]

/-- After a break that does not go on a new line begins. -/
theorem splitLines_break {s : LineBreak} {more : List Char}
    (ends : s = .carriageReturn → ∀ after, more ≠ '\n' :: after) :
    splitLines (s.chars ++ more) = ([], Text.lines more) := by
  cases s with
  | pair => rfl
  | lineFeed => rfl
  | carriageReturn =>
    rw [LineBreak.chars, List.singleton_append, splitLines.eq_3 _ _ (fun after _ same => ends rfl after same)]
    rfl

/-- Lines joined by breaks that stand apart are the lines of what is joined. -/
theorem splitLines_joined {later : List (LineBreak × List Char)} (unbroken : ∀ p ∈ later, Unbroken p.2)
    (apart : Apart later) : splitLines (joined later) = ([], later.map Prod.snd) := by
  induction later with
  | nil => rfl
  | cons p later ih =>
    obtain ⟨s, l⟩ := p
    obtain ⟨whole, others⟩ := List.forall_mem_cons.mp unbroken
    obtain ⟨after, ends⟩ := (apart_cons_iff whole).mp apart
    have joins : joined ((s, l) :: later) = s.chars ++ (l ++ joined later) := by simp [joined]
    rw [joins, splitLines_break ends, lines_append whole, ih others after, List.append_nil]
    rfl

/-- There are never more lines than are joined, and as many only if the breaks stand apart. -/
theorem length_splitLines_joined {later : List (LineBreak × List Char)} (unbroken : ∀ p ∈ later, Unbroken p.2) :
    (splitLines (joined later)).2.length ≤ later.length ∧
      ((splitLines (joined later)).2.length = later.length → Apart later) := by
  induction later with
  | nil => exact ⟨Nat.le_refl _, fun _ => .nil⟩
  | cons p later ih =>
    obtain ⟨s, l⟩ := p
    obtain ⟨whole, others⟩ := List.forall_mem_cons.mp unbroken
    obtain ⟨fewer, apart⟩ := ih others
    have joins : joined ((s, l) :: later) = s.chars ++ (l ++ joined later) := by simp [joined]
    by_cases ends : s = .carriageReturn → ∀ after, l ++ joined later ≠ '\n' :: after
    · rw [joins, splitLines_break ends, lines_append whole, List.length_cons, List.length_cons]
      exact ⟨Nat.succ_le_succ fewer, fun same => (apart_cons_iff whole).mpr ⟨apart (Nat.succ.inj same), ends⟩⟩
    · -- The carriage return and the line feed after it are one break, so that a line is lost.
      simp only [Classical.not_imp, not_forall, not_not] at ends
      obtain ⟨rfl, after, next⟩ := ends
      obtain ⟨rfl, feeds⟩ := whole.feed next
      have same : splitLines (joined ((LineBreak.carriageReturn, []) :: later)) = splitLines (joined later) := by
        rw [joins, List.nil_append, feeds]
        rfl
      rw [same, List.length_cons]
      exact ⟨by omega, fun equal => absurd fewer (by omega)⟩

/-- The lines that are joined are the lines of the text if and only if the breaks stand apart. -/
theorem lines_text_iff {b : Broken} (unbroken : ∀ l ∈ b.lines, Unbroken l) :
    Text.lines b.text = b.lines ↔ Apart b.later := by
  obtain ⟨whole, later⟩ := List.forall_mem_cons.mp unbroken
  have others : ∀ p ∈ b.later, Unbroken p.2 := fun p member => later p.2 (List.mem_map_of_mem member)
  rw [Broken.text, lines_append whole, Broken.lines]
  constructor
  · intro same
    refine (length_splitLines_joined others).2 ?_
    rw [(List.cons.inj same).2, List.length_map]
  · intro apart
    rw [splitLines_joined others apart, List.append_nil]

end Text

namespace LineTable

open Text

theorem range_error_iff (t : LineTable) (line : Int) (e : LineOutOfRange) :
    t.range line = .error e ↔ ¬ (1 ≤ line ∧ line ≤ t.lines.length) ∧ e = ⟨line, t.lines.length⟩ := by
  unfold range
  by_cases inside : 1 ≤ line ∧ line ≤ t.size
  · simp [inside, show (line : Int) ≤ t.lines.length from inside.2]
  · rw [if_neg inside]
    refine ⟨fun failed => ?_, fun ⟨_, same⟩ => by rw [same]; rfl⟩
    cases failed
    exact ⟨inside, rfl⟩

theorem range_inside (t : LineTable) {i : Nat} (inside : i < t.lines.length) :
    t.range (i + 1) = .ok ⟨⟨i, 0⟩, ⟨i, t.lines[i].length⟩⟩ := by
  have bounds : (1 : Int) ≤ i + 1 ∧ (i + 1 : Int) ≤ t.size := by
    unfold size
    omega
  rw [range, if_pos bounds, lengthAt]
  simp [inside]

/-- The lines of a text hold no break, and the text is these lines with breaks between them. Lines
without breaks are the lines of what they are joined to, if and only if no carriage return is
followed by an empty line and a line feed; so it does not matter which breaks join them. A line has a
range if and only if the text has the line, and it is the whole of the line then. -/
theorem lines_round_trip :
    (∀ text : String, (∀ l ∈ (ofText text).lines, Unbroken l) ∧
      ∃ b : Broken, b.lines = (ofText text).lines ∧ b.text = text.toList) ∧
    (∀ b : Broken, (∀ l ∈ b.lines, Unbroken l) →
      ((ofText (String.ofList b.text)).lines = b.lines ↔ Broken.Apart b.later) ∧
      ∀ b' : Broken, b'.lines = b.lines → Broken.Apart b.later → Broken.Apart b'.later →
        ofText (String.ofList b'.text) = ofText (String.ofList b.text)) ∧
    ∀ (t : LineTable) (line : Int),
      (∀ e, t.range line = .error e ↔ ¬ (1 ≤ line ∧ line ≤ t.lines.length) ∧ e = ⟨line, t.lines.length⟩) ∧
      ∀ i, (inside : i < t.lines.length) → line = i + 1 → t.range line = .ok ⟨⟨i, 0⟩, ⟨i, t.lines[i].length⟩⟩ := by
  refine ⟨fun text => ?_, fun b unbroken => ⟨?_, fun b' same apart apart' => ?_⟩,
    fun t line => ⟨range_error_iff t line, ?_⟩⟩
  · obtain ⟨later, tail, joins, _, whole, others⟩ := exists_joined text.toList
    refine ⟨?_, ⟨(splitLines text.toList).1, later⟩, ?_, joins⟩
    · change ∀ l ∈ (splitLines text.toList).1 :: (splitLines text.toList).2, Unbroken l
      rw [tail]
      refine List.forall_mem_cons.mpr ⟨whole, fun l member => ?_⟩
      obtain ⟨p, inside, rfl⟩ := List.mem_map.mp member
      exact others p inside
    · rw [Broken.lines, ← tail]
      rfl
  · rw [ofText, String.toList_ofList]
    exact lines_text_iff unbroken
  · have lines := (lines_text_iff unbroken).mpr apart
    have lines' := (lines_text_iff (same ▸ unbroken)).mpr apart'
    rw [ofText, ofText, String.toList_ofList, String.toList_ofList, lines, lines', same]
  · rintro i inside rfl
    exact range_inside t inside

/-- Four lines with all three breaks between them, an empty line after a carriage return and an empty
line at the end. -/
theorem lines_round_trip_mixed :
    ∃ b : Broken, (∀ l ∈ b.lines, Unbroken l) ∧ Broken.Apart b.later ∧ String.ofList b.text = "a\r\r\nbc\n" ∧
      (ofText "a\r\r\nbc\n").lines = [['a'], [], ['b', 'c'], []] ∧ ofText "a\r\r\nbc\n" = ofText "a\n\nbc\n" ∧
      (ofText "a\r\r\nbc\n").range 3 = .ok ⟨⟨2, 0⟩, ⟨2, 2⟩⟩ := by
  obtain ⟨_, joined, resolved⟩ := lines_round_trip
  let b : Broken := ⟨['a'], [(.carriageReturn, []), (.pair, ['b', 'c']), (.lineFeed, [])]⟩
  let b' : Broken := ⟨['a'], [(.lineFeed, []), (.lineFeed, ['b', 'c']), (.lineFeed, [])]⟩
  have unbroken : ∀ l ∈ b.lines, Unbroken l := by decide
  have apart : Broken.Apart b.later := by decide
  obtain ⟨lines, alike⟩ := joined b unbroken
  have given : (ofText "a\r\r\nbc\n").lines = [['a'], [], ['b', 'c'], []] := lines.mpr apart
  have third := (resolved (ofText "a\r\r\nbc\n") 3).2 2 (by rw [given]; decide) rfl
  simp only [given] at third
  exact ⟨b, unbroken, apart, rfl, given, (alike b' rfl apart (by decide)).symm, third⟩

/-- A carriage return and a line feed with an empty line between them end one line, not two. -/
example : (ofText (String.ofList (Broken.text ⟨[], [(.carriageReturn, []), (.lineFeed, [])]⟩))).size = 2 := by decide

end LineTable

end Diagnosis
