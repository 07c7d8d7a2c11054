import Diagnosis.Proofs.Json.Fields
import Diagnosis.Proofs.Json.Numbers

/-!
# Values are read back

The text of a value is read as the value, on one line or indented: characters of strings by their
escapes, numbers by their digits, lists and objects member by member. Keys must not come twice,
and whole numbers must not have too many digits.
-/

namespace Diagnosis.Json

open Diagnosis.Number Diagnosis.Text

/-! ## Strings -/

theorem hexValue?_hexDigit {n : Nat} (small : n < 16) : hexValue? (hexDigit n) = some n := by
  have all : ∀ n < 16, hexValue? (hexDigit n) = some n := by decide
  exact all n small

theorem length_hexLast (width n : Nat) : (hexLast width n).length = width := by
  induction width generalizing n with
  | zero => rfl
  | succ width ih => rw [hexLast, List.length_append, ih, List.length_singleton]

/-- Four hexadecimal digits spell the number they are the last digits of. -/
theorem unit?_hexLast {n : Nat} (small : n < 0x10000) (tail : List Char) : unit? (hexLast 4 n ++ tail) = some n := by
  have size := length_hexLast 4 n
  rw [unit?, if_pos (by rw [List.length_append]; omega), List.take_left' size]
  simp only [hexLast, List.nil_append, List.cons_append, List.foldlM_cons, List.foldlM_nil,
    hexValue?_hexDigit (Nat.mod_lt _ (by omega : 16 > 0)), Option.map_some, Option.bind_eq_bind, Option.bind_some,
    Option.pure_def, Option.some.injEq]
  omega

/-- Neither half of a pair of units is a character. -/
theorem not_surrogate (c : Char) : ¬ (0xD800 ≤ c.toNat ∧ c.toNat < 0xE000) := by
  have valid : c.toNat.isValidChar := c.valid
  rintro ⟨low, high⟩
  rcases valid with below | ⟨above, _⟩ <;> omega

theorem readUnits_single {c : Char} (single : c.toNat < 0x10000) {tail : List Char} (more : tail ≠ []) (offset : Nat) :
    readUnits (hexLast 4 c.toNat ++ tail) offset = .ok (c, 4) := by
  have some_more := List.length_pos_iff.mpr more
  have size : (hexLast 4 c.toNat ++ tail).length = 4 + tail.length := by
    rw [List.length_append, length_hexLast]
  have apart := not_surrogate c
  rw [readUnits, if_neg (by omega), unit?_hexLast single]
  dsimp only
  rw [if_neg (by omega), if_neg (by omega), Char.ofNat_toNat]

theorem readUnits_pair {c : Char} (pair : 0x10000 ≤ c.toNat) {tail : List Char} (more : tail ≠ []) (offset : Nat) :
    readUnits (hexLast 4 (0xD800 + (c.toNat - 0x10000) / 0x400) ++
      ('\\' :: 'u' :: hexLast 4 (0xDC00 + (c.toNat - 0x10000) % 0x400) ++ tail)) offset = .ok (c, 10) := by
  have some_more := List.length_pos_iff.mpr more
  have valid : c.toNat.isValidChar := c.valid
  have bound : c.toNat < 0x110000 := by
    rcases valid with below | ⟨_, below⟩ <;> omega
  have high : 0xD800 + (c.toNat - 0x10000) / 0x400 < 0x10000 := by omega
  have low : 0xDC00 + (c.toNat - 0x10000) % 0x400 < 0x10000 := by omega
  have size := length_hexLast 4 (0xD800 + (c.toNat - 0x10000) / 0x400)
  have size' := length_hexLast 4 (0xDC00 + (c.toNat - 0x10000) % 0x400)
  have behind : (hexLast 4 (0xD800 + (c.toNat - 0x10000) / 0x400) ++
      ('\\' :: 'u' :: hexLast 4 (0xDC00 + (c.toNat - 0x10000) % 0x400) ++ tail)).drop 6 =
      hexLast 4 (0xDC00 + (c.toNat - 0x10000) % 0x400) ++ tail := by
    rw [show 6 = 4 + 2 from rfl, ← List.drop_drop, List.drop_left' size]
    rfl
  rw [readUnits, if_neg (by simp only [List.length_append, List.length_cons]; omega), unit?_hexLast high]
  dsimp only
  rw [if_pos, behind, unit?_hexLast low]
  · dsimp only
    have value : 0x10000 + (0xD800 + (c.toNat - 0x10000) / 0x400 - 0xD800) * 0x400 +
        (0xDC00 + (c.toNat - 0x10000) % 0x400 - 0xDC00) = c.toNat := by
      omega
    rw [if_pos (by omega), value, Char.ofNat_toNat]
  · refine ⟨by omega, by omega, by simp only [List.length_append, List.length_cons]; omega, ?_⟩
    rw [List.drop_left' size]
    rfl

/-- A character is escaped by a letter, stands for itself, or becomes one unit or two. -/
theorem escapeChar_cases (c : Char) :
    (∃ x, escapeChar c = ['\\', x] ∧ simpleEscape? x = some c) ∨
    (escapeChar c = [c] ∧ c ≠ '"' ∧ c ≠ '\\' ∧ 32 ≤ c.toNat ∧ c.toNat ≤ 126) ∨
    (c.toNat < 0x10000 ∧ escapeChar c = '\\' :: 'u' :: hexLast 4 c.toNat) ∨
    (0x10000 ≤ c.toNat ∧ escapeChar c = '\\' :: 'u' :: (hexLast 4 (0xD800 + (c.toNat - 0x10000) / 0x400) ++
      '\\' :: 'u' :: hexLast 4 (0xDC00 + (c.toNat - 0x10000) % 0x400))) := by
  unfold escapeChar
  simp only [beq_iff_eq]
  by_cases quote : c = '"'
  · exact .inl ⟨'"', by rw [if_pos quote], by rw [quote]; rfl⟩
  by_cases back : c = '\\'
  · exact .inl ⟨'\\', by rw [if_neg quote, if_pos back], by rw [back]; rfl⟩
  by_cases line : c = '\n'
  · exact .inl ⟨'n', by rw [if_neg quote, if_neg back, if_pos line], by rw [line]; rfl⟩
  by_cases carriage : c = '\r'
  · exact .inl ⟨'r', by rw [if_neg quote, if_neg back, if_neg line, if_pos carriage], by rw [carriage]; rfl⟩
  by_cases tab : c = '\t'
  · exact .inl ⟨'t', by rw [if_neg quote, if_neg back, if_neg line, if_neg carriage, if_pos tab], by rw [tab]; rfl⟩
  by_cases form : c = '\x0c'
  · exact .inl ⟨'f', by rw [if_neg quote, if_neg back, if_neg line, if_neg carriage, if_neg tab, if_pos form], by rw [form]; rfl⟩
  by_cases bell : c = '\x08'
  · exact .inl ⟨'b', by
      rw [if_neg quote, if_neg back, if_neg line, if_neg carriage, if_neg tab, if_neg form, if_pos bell], by rw [bell]; rfl⟩
  rw [if_neg quote, if_neg back, if_neg line, if_neg carriage, if_neg tab, if_neg form, if_neg bell]
  by_cases plain : (32 ≤ c.toNat && c.toNat ≤ 126) = true
  · rw [if_pos plain]
    rw [Bool.and_eq_true, decide_eq_true_eq, decide_eq_true_eq] at plain
    exact .inr (.inl ⟨rfl, quote, back, plain⟩)
  · rw [if_neg plain]
    by_cases single : c.toNat < 0x10000
    · exact .inr (.inr (.inl ⟨single, if_pos single⟩))
    · exact .inr (.inr (.inr ⟨not_lt.mp single, if_neg single⟩))

theorem readString_units {start fuel offset n : Nat} {rest read : List Char} {c : Char}
    (units : readUnits rest (offset + 2) = .ok (c, n)) :
    readString start (fuel + 1) ⟨'\\' :: 'u' :: rest, offset⟩ read =
      readString start fuel ⟨rest.drop n, offset + (n + 2)⟩ (c :: read) := by
  simp only [readString, units, Except.bind, bind, Cursor.skip]
  rfl

/-- A character of a string is read back from its escape. -/
theorem readString_escapeChar (c : Char) {tail : List Char} (more : tail ≠ []) (start fuel offset : Nat) (read : List Char) :
    ∃ offset', readString start (fuel + 1) ⟨escapeChar c ++ tail, offset⟩ read =
      readString start fuel ⟨tail, offset'⟩ (c :: read) := by
  rcases escapeChar_cases c with ⟨x, escape, named⟩ | ⟨escape, quote, back, printable⟩ | ⟨single, escape⟩ | ⟨pair, escape⟩
  · refine ⟨offset + 2, ?_⟩
    have other : x ≠ 'u' := by
      rintro rfl
      cases named
    rw [escape]
    simp [readString, named]
  · refine ⟨offset + 1, ?_⟩
    have above : ¬ c.val ≤ 0x1f := by
      simp only [UInt32.le_iff_toNat_le, UInt32.reduceToNat]
      have same : c.val.toNat = c.toNat := rfl
      omega
    rw [escape]
    simp [readString, back, above]
  · rw [escape, List.cons_append, List.cons_append, readString_units (readUnits_single single more _),
      List.drop_left' (length_hexLast 4 c.toNat)]
    exact ⟨_, rfl⟩
  · have units := readUnits_pair pair more (offset + 2)
    rw [← List.append_assoc] at units
    have sized : (hexLast 4 (0xD800 + (c.toNat - 0x10000) / 0x400) ++
        '\\' :: 'u' :: hexLast 4 (0xDC00 + (c.toNat - 0x10000) % 0x400)).length = 10 := by
      rw [List.length_append, List.length_cons, List.length_cons, length_hexLast, length_hexLast]
    rw [escape, List.cons_append, List.cons_append, readString_units units, List.drop_left' sized]
    exact ⟨_, rfl⟩

/-- A string is read back, whatever has been read of it before. -/
theorem readString_escapes (cs rest : List Char) (start fuel offset : Nat) (enough : cs.length < fuel) (read : List Char) :
    ∃ offset', readString start fuel ⟨cs.flatMap escapeChar ++ '"' :: rest, offset⟩ read =
      .ok (String.ofList (read.reverse ++ cs), ⟨rest, offset'⟩) := by
  induction cs generalizing fuel offset read with
  | nil =>
    obtain ⟨fuel, rfl⟩ := Nat.exists_eq_add_of_lt enough
    rw [List.append_nil]
    exact ⟨_, rfl⟩
  | cons c more ih =>
    obtain ⟨fuel, rfl⟩ := Nat.exists_eq_succ_of_ne_zero (Nat.ne_zero_of_lt enough)
    rw [List.flatMap_cons, List.append_assoc]
    obtain ⟨between, first⟩ := readString_escapeChar c (by simp : more.flatMap escapeChar ++ '"' :: rest ≠ []) start fuel
      offset read
    rw [first]
    obtain ⟨offset', later⟩ := ih fuel between (Nat.lt_of_succ_lt_succ enough) (c :: read)
    refine ⟨offset', later.trans ?_⟩
    rw [List.reverse_cons, List.append_assoc, List.singleton_append]

theorem length_flatMap_escapeChar (cs : List Char) : cs.length ≤ (cs.flatMap escapeChar).length := by
  induction cs with
  | nil => exact Nat.le_refl 0
  | cons c rest ih =>
    have some_character : 0 < (escapeChar c).length := by
      rcases escapeChar_cases c with ⟨x, escape, _⟩ | ⟨escape, _⟩ | ⟨_, escape⟩ | ⟨_, escape⟩ <;> simp [escape]
    rw [List.flatMap_cons, List.length_append, List.length_cons]
    omega

/-- The text of a string is read back. -/
theorem string_writeText (s : String) (rest : List Char) (offset : Nat) :
    ∃ offset', Cursor.string ⟨writeText s ++ rest, offset⟩ = .ok (s, ⟨rest, offset'⟩) := by
  have shape : writeText s ++ rest = '"' :: (s.toList.flatMap escapeChar ++ '"' :: rest) := by
    simp [writeText]
  have enough : s.toList.length < (s.toList.flatMap escapeChar ++ '"' :: rest).length + 2 := by
    have longer := length_flatMap_escapeChar s.toList
    rw [List.length_append]
    omega
  obtain ⟨offset', read⟩ := readString_escapes s.toList rest offset _ (offset + 1) enough []
  rw [List.reverse_nil, List.nil_append, String.ofList_toList] at read
  rw [shape]
  exact ⟨offset', read⟩

/-! ## What stands between values -/

/-- Nothing but blanks. -/
def Blanks (cs : List Char) : Prop := ∀ c ∈ cs, c = ' ' ∨ c = '\n' ∨ c = '\t' ∨ c = '\r'

/-- A character that is no blank. -/
def Solid (c : Char) : Prop := c ≠ ' ' ∧ c ≠ '\n' ∧ c ≠ '\t' ∧ c ≠ '\r'

instance (c : Char) : Decidable (Solid c) := inferInstanceAs (Decidable (c ≠ ' ' ∧ c ≠ '\n' ∧ c ≠ '\t' ∧ c ≠ '\r'))

theorem skipBlanks_solid {c : Char} (solid : Solid c) (rest : List Char) (offset : Nat) :
    Cursor.skipBlanks (c :: rest) offset = ⟨c :: rest, offset⟩ := by
  obtain ⟨space, line, tab, carriage⟩ := solid
  simp [Cursor.skipBlanks, space, line, tab, carriage]

/-- Blanks before something else are passed. -/
theorem skipBlanks_blanks {cs : List Char} (blanks : Blanks cs) {c : Char} (solid : Solid c) (rest : List Char)
    (offset : Nat) : ∃ offset', Cursor.blanks ⟨cs ++ c :: rest, offset⟩ = ⟨c :: rest, offset'⟩ := by
  unfold Cursor.blanks
  induction cs generalizing offset with
  | nil => exact ⟨offset, skipBlanks_solid solid rest offset⟩
  | cons d more ih =>
    obtain ⟨offset', passed⟩ := ih (fun x member => blanks x (List.mem_cons_of_mem _ member)) (offset + 1)
    refine ⟨offset', ?_⟩
    rw [← passed]
    have blank : (d == ' ' || d == '\n' || d == '\t' || d == '\r') = true := by
      simpa [or_assoc] using blanks d List.mem_cons_self
    simp [Cursor.skipBlanks, blank]

/-- The blanks after an opening bracket, after a comma and before a closing bracket. -/
structure Margins where
  first : List Char
  between : List Char
  last : List Char

/-- The blanks of a layout at a depth. -/
def Layout.margins (layout : Layout) (depth : Nat) : Margins :=
  match layout with
  | .line => ⟨[], [' '], []⟩
  | .indented =>
    let margin := '\n' :: List.replicate (2 * (depth + 1)) ' '
    ⟨margin, margin, '\n' :: List.replicate (2 * depth) ' '⟩

theorem Layout.margins_blank (layout : Layout) (depth : Nat) :
    Blanks (layout.margins depth).first ∧ Blanks (layout.margins depth).between ∧ Blanks (layout.margins depth).last := by
  have margin (n : Nat) : Blanks ('\n' :: List.replicate n ' ') := by
    intro c member
    rcases List.mem_cons.mp member with rfl | space
    · exact .inr (.inl rfl)
    · exact .inl (List.eq_of_mem_replicate space)
  cases layout with
  | line => simp [Layout.margins, Blanks]
  | indented => exact ⟨margin _, margin _, margin _⟩

theorem Layout.enclose_eq (layout : Layout) (depth : Nat) (left right : Char) {members : List (List Char)}
    (some_member : members ≠ []) :
    layout.enclose depth left right members = left :: ((layout.margins depth).first ++
      (joinWith (',' :: (layout.margins depth).between) members ++ ((layout.margins depth).last ++ [right]))) := by
  have full : members.isEmpty = false := List.isEmpty_eq_false_iff.mpr some_member
  cases layout <;> simp [Layout.enclose, Layout.margins, full]

theorem joinWith_cons_cons (separator first second : List Char) (rest : List (List Char)) :
    joinWith separator (first :: second :: rest) = first ++ separator ++ joinWith separator (second :: rest) := rfl

/-! ## Values that are written so that they are read back -/

/-- A value that a text gives: no key of an object comes twice, a whole number has no more digits than
a number may have, and there is one value that is no number. -/
inductive Proper : Value → Prop where
  | null : Proper .null
  | bool (b : Bool) : Proper (.bool b)
  | int {n : Int} (short : n.natAbs < 10 ^ digitLimit) : Proper (.int n)
  | real {x : Binary64} (canonical : Canonical x) : Proper (.real x)
  | text (s : String) : Proper (.text s)
  | list {items : List Value} (inner : ∀ v ∈ items, Proper v) : Proper (.list items)
  | object {fields : Fields} (single : fields.keys.Nodup) (inner : ∀ e ∈ fields, Proper e.2) : Proper (.object fields)

/-- A value is read back from its text, whatever comes after it that does not go on with a number. -/
def ReadsBack (v : Value) : Prop :=
  ∀ (layout : Layout) (depth fuel offset : Nat) (rest : List Char), (writeValue layout depth v).length ≤ fuel →
    Ends rest → ∃ offset', readValue fuel ⟨writeValue layout depth v ++ rest, offset⟩ = .ok (v, ⟨rest, offset'⟩)

/-- A character that a value's text may begin with: no blank, nothing that closes a bracket, and no mark. -/
def Opening (c : Char) : Prop := Solid c ∧ c ≠ ']' ∧ c ≠ '\x7d' ∧ c ≠ '\uFEFF'

instance (c : Char) : Decidable (Opening c) := inferInstanceAs (Decidable (Solid c ∧ c ≠ ']' ∧ c ≠ '\x7d' ∧ c ≠ '\uFEFF'))

theorem opening_of_digit {c : Char} (digit : c.isDigit = true) : Opening c := by
  refine ⟨⟨?_, ?_, ?_, ?_⟩, ?_, ?_, ?_⟩ <;>
  · rintro rfl
    exact absurd digit (by decide)

theorem decimalInt_head (n : Int) : ∃ c more, (decimalInt n).toList = c :: more ∧ (c.isDigit = true ∨ c = '-') := by
  cases n with
  | ofNat m =>
    obtain ⟨c, more, digits⟩ := List.exists_cons_of_ne_nil (decimal_ne_nil m)
    exact ⟨c, more, digits, .inl (decimal_digits m c (digits ▸ List.mem_cons_self))⟩
  | negSucc m =>
    refine ⟨'-', (decimal (m + 1)).toList, ?_, .inr rfl⟩
    rw [decimalInt, String.toList_append]
    rfl

theorem realText_head (x : Binary64) : ∃ c more, (x.text "Infinity" "NaN").toList = c :: more ∧
    (c.isDigit = true ∨ c = '-' ∨ c = 'I' ∨ c = 'N') := by
  unfold Binary64.text
  dsimp only
  split
  · rename_i finite
    obtain ⟨c, more, text, digit⟩ := finiteText_head finite
    rw [String.toList_append, String.toList_ofList, text]
    cases x.isNegative with
    | true => exact ⟨'-', c :: more, rfl, .inr (.inl rfl)⟩
    | false => exact ⟨c, more, rfl, .inl digit⟩
  · split
    · rw [String.toList_append]
      cases x.isNegative with
      | true => exact ⟨'-', _, rfl, .inr (.inl rfl)⟩
      | false => exact ⟨'I', _, rfl, .inr (.inr (.inl rfl))⟩
    · exact ⟨'N', _, rfl, .inr (.inr (.inr rfl))⟩

theorem enclose_head (layout : Layout) (depth : Nat) (left right : Char) (members : List (List Char)) :
    ∃ more, layout.enclose depth left right members = left :: more := by
  by_cases some_member : members = []
  · rw [some_member]
    exact ⟨_, rfl⟩
  · rw [Layout.enclose_eq layout depth left right some_member]
    exact ⟨_, rfl⟩

theorem writeValue_head (v : Value) (layout : Layout) (depth : Nat) :
    ∃ c more, writeValue layout depth v = c :: more ∧ Opening c := by
  cases v with
  | null => exact ⟨'n', _, rfl, by decide⟩
  | bool b => cases b with
    | true => exact ⟨'t', _, rfl, by decide⟩
    | false => exact ⟨'f', _, rfl, by decide⟩
  | int n =>
    obtain ⟨c, more, text, digit | rfl⟩ := decimalInt_head n
    · exact ⟨c, more, text, opening_of_digit digit⟩
    · exact ⟨'-', more, text, by decide⟩
  | real x =>
    obtain ⟨c, more, text, digit | rfl | rfl | rfl⟩ := realText_head x
    · exact ⟨c, more, text, opening_of_digit digit⟩
    · exact ⟨'-', more, text, by decide⟩
    · exact ⟨'I', more, text, by decide⟩
    · exact ⟨'N', more, text, by decide⟩
  | text s => exact ⟨'"', _, rfl, by decide⟩
  | list items =>
    obtain ⟨more, text⟩ := enclose_head layout depth '[' ']' (writeItems layout (depth + 1) items)
    exact ⟨'[', more, text, by decide⟩
  | object fields =>
    obtain ⟨more, text⟩ := enclose_head layout depth '\x7b' '\x7d' (writeFields layout (depth + 1) fields)
    exact ⟨'\x7b', more, text, by decide⟩

theorem ends_comma (more : List Char) : Ends (',' :: more) := by
  rintro c ⟨⟩
  decide

theorem ends_blanks {cs : List Char} (blanks : Blanks cs) {c : Char} (closes : c = ']' ∨ c = '\x7d') (rest : List Char) :
    Ends (cs ++ c :: rest) := by
  intro d first
  cases cs with
  | nil =>
    cases first
    rcases closes with rfl | rfl <;> decide
  | cons b more =>
    cases first
    rcases blanks d List.mem_cons_self with rfl | rfl | rfl | rfl <;> decide

/-- Texts with separators begin as the first one does. -/
theorem joined_head (separator : List Char) {first : List Char} (texts : List (List Char))
    (begins : ∃ c more, first = c :: more ∧ Opening c) :
    ∃ c more, joinWith separator (first :: texts) = c :: more ∧ Opening c := by
  obtain ⟨c, more, rfl, opening⟩ := begins
  cases texts with
  | nil => exact ⟨c, more, rfl, opening⟩
  | cons second others => exact ⟨c, more ++ separator ++ joinWith separator (second :: others), rfl, opening⟩

/-! ## Members between brackets -/

section Members

variable {M σ : Type} {Good : M → Prop} {write : M → List Char} {add : σ → M → σ} {finish : σ → Value}
  {reader after : Nat → Cursor → σ → Except Error (Value × Cursor)} {closer : Char}

/-- Members are read as they are written: each one is added to what has been read, and what comes
after it closes the bracket or is a comma, after which the next one is read. -/
structure ReadsMembers (Good : M → Prop) (write : M → List Char) (add : σ → M → σ) (finish : σ → Value)
    (reader after : Nat → Cursor → σ → Except Error (Value × Cursor)) (closer : Char) : Prop where
  closes : closer = ']' ∨ closer = '\x7d'
  opens : ∀ m, ∃ c more, write m = c :: more ∧ Opening c
  member : ∀ {m}, Good m → ∀ fuel offset read tail, (write m).length ≤ fuel → Ends tail →
    ∃ offset', reader (fuel + 1) ⟨write m ++ tail, offset⟩ read = after fuel (Cursor.blanks ⟨tail, offset'⟩) (add read m)
  closed : ∀ fuel rest offset read, after fuel ⟨closer :: rest, offset⟩ read = .ok (finish read, ⟨rest, offset + 1⟩)
  comma : ∀ fuel rest offset read,
    after fuel ⟨',' :: rest, offset⟩ read = reader fuel (Cursor.blanks ⟨rest, offset + 1⟩) read

variable (reads : ReadsMembers Good write add finish reader after closer)

include reads

/-- Members with commas between them are read up to the closing bracket. -/
theorem ReadsMembers.join {m : M} {ms : List M} (good : ∀ x ∈ m :: ms, Good x) {between last : List Char}
    (gaps : Blanks between) (ending : Blanks last) (fuel offset : Nat) (rest : List Char) (read : σ)
    (enough : (joinWith (',' :: between) ((m :: ms).map write)).length < fuel) :
    ∃ offset', reader fuel ⟨joinWith (',' :: between) ((m :: ms).map write) ++ (last ++ closer :: rest), offset⟩ read =
      .ok (finish ((m :: ms).foldl add read), ⟨rest, offset'⟩) := by
  induction ms generalizing m fuel offset read with
  | nil =>
    obtain ⟨fuel, rfl⟩ := Nat.exists_eq_succ_of_ne_zero (Nat.ne_zero_of_lt enough)
    have solid : Solid closer := by
      rcases reads.closes with rfl | rfl <;> decide
    obtain ⟨o₁, one⟩ := reads.member (good m List.mem_cons_self) fuel offset read (last ++ closer :: rest)
      (Nat.le_of_lt_succ enough) (ends_blanks ending reads.closes rest)
    obtain ⟨o₂, passed⟩ := skipBlanks_blanks ending solid rest o₁
    rw [passed, reads.closed] at one
    exact ⟨o₂ + 1, one⟩
  | cons n others ih =>
    obtain ⟨fuel, rfl⟩ := Nat.exists_eq_succ_of_ne_zero (Nat.ne_zero_of_lt enough)
    obtain ⟨c, tail, joined, solid, _⟩ := joined_head (',' :: between) (others.map write) (reads.opens n)
    rw [← List.map_cons] at joined
    have shape : joinWith (',' :: between) ((m :: n :: others).map write) = write m ++ (',' :: between) ++ (c :: tail) := by
      rw [← joined]
      exact joinWith_cons_cons ..
    rw [shape] at enough ⊢
    simp only [List.length_append, List.length_cons] at enough
    obtain ⟨o₁, one⟩ := reads.member (good m List.mem_cons_self) fuel offset read
      (',' :: (between ++ c :: (tail ++ (last ++ closer :: rest)))) (by omega) (ends_comma _)
    obtain ⟨o₂, passed⟩ := skipBlanks_blanks gaps solid (tail ++ (last ++ closer :: rest)) (o₁ + 1)
    obtain ⟨o₃, later⟩ := ih (fun x inside => good x (List.mem_cons_of_mem _ inside)) fuel o₂ (add read m)
      (by rw [joined, List.length_cons]; omega)
    have comma : Cursor.blanks ⟨',' :: (between ++ c :: (tail ++ (last ++ closer :: rest))), o₁⟩ =
        ⟨',' :: (between ++ c :: (tail ++ (last ++ closer :: rest))), o₁⟩ := skipBlanks_solid (by decide) _ _
    rw [comma, reads.comma, passed] at one
    rw [joined, List.cons_append] at later
    refine ⟨o₃, ?_⟩
    simp only [List.append_assoc, List.cons_append]
    exact one.trans later

/-- Members are read from behind their opening bracket. -/
theorem ReadsMembers.enclosed {m : M} {ms : List M} (good : ∀ x ∈ m :: ms, Good x) (layout : Layout) (depth : Nat)
    (left : Char) (fuel offset : Nat) (rest : List Char) (read : σ)
    (enough : (layout.enclose depth left closer ((m :: ms).map write)).length ≤ fuel) :
    ∃ less text c tail o offset', fuel = less + 1 ∧
      layout.enclose depth left closer ((m :: ms).map write) ++ rest = left :: text ∧
      Cursor.blanks ⟨text, offset + 1⟩ = ⟨c :: tail, o⟩ ∧ Opening c ∧
      reader less ⟨c :: tail, o⟩ read = .ok (finish ((m :: ms).foldl add read), ⟨rest, offset'⟩) := by
  obtain ⟨blank, gaps, ending⟩ := layout.margins_blank depth
  obtain ⟨c, tail, joined, opening⟩ := joined_head (',' :: (layout.margins depth).between) (ms.map write) (reads.opens m)
  rw [← List.map_cons] at joined
  rw [layout.enclose_eq depth left closer (by simp : (m :: ms).map write ≠ [])] at enough ⊢
  obtain ⟨less, rfl⟩ := Nat.exists_eq_succ_of_ne_zero (Nat.ne_zero_of_lt enough)
  simp only [List.length_append, List.length_cons] at enough
  obtain ⟨o, passed⟩ := skipBlanks_blanks blank opening.1 (tail ++ ((layout.margins depth).last ++ closer :: rest))
    (offset + 1)
  obtain ⟨o', members⟩ := reads.join good gaps ending less o rest read (by omega)
  rw [joined, List.cons_append] at members
  refine ⟨less, _, c, _, o, o', rfl, ?_, passed, opening, members⟩
  rw [joined]
  simp only [List.append_assoc, List.cons_append, List.nil_append]

end Members

/-! ## Lists -/

theorem writeItems_eq_map (layout : Layout) (depth : Nat) (items : List Value) :
    writeItems layout depth items = items.map (writeValue layout depth) := by
  induction items with
  | nil => rfl
  | cons v rest ih => rw [writeItems, ih, List.map_cons]

/-- What is read after a member of a list: that the list ends, or another member. -/
def afterItem (fuel : Nat) (c : Cursor) (read : List Value) : Except Error (Value × Cursor) :=
  match c.rest with
  | ']' :: _ => .ok (.list read.reverse, c.skip 1)
  | ',' :: _ => readItems fuel (c.skip 1).blanks read
  | _ => c.fail .comma

theorem readsMembers_items (layout : Layout) (depth : Nat) :
    ReadsMembers ReadsBack (writeValue layout depth) (fun read v => v :: read) (fun read => .list read.reverse)
      readItems afterItem ']' where
  closes := .inl rfl
  opens v := writeValue_head v layout depth
  member back fuel offset read tail enough ends := by
    obtain ⟨offset', one⟩ := back layout depth fuel offset tail enough ends
    refine ⟨offset', ?_⟩
    rw [readItems, one]
    rfl
  closed _ _ _ _ := rfl
  comma _ _ _ _ := rfl

theorem readValue_bracket {text tail : List Char} {c : Char} {offset passedTo : Nat}
    (passed : Cursor.blanks ⟨text, offset + 1⟩ = ⟨c :: tail, passedTo⟩) (full : c ≠ ']') (fuel : Nat) :
    readValue (fuel + 1) ⟨'[' :: text, offset⟩ = readItems fuel ⟨c :: tail, passedTo⟩ [] := by
  have inside : (Cursor.skip ⟨'[' :: text, offset⟩ 1).blanks = ⟨c :: tail, passedTo⟩ := passed
  simp [readValue, inside, full]

theorem readsBack_list {items : List Value} (back : ∀ v ∈ items, ReadsBack v) : ReadsBack (.list items) := by
  intro layout depth fuel offset rest enough _
  rw [writeValue, writeItems_eq_map] at enough ⊢
  cases items with
  | nil =>
    obtain ⟨fuel, rfl⟩ := Nat.exists_eq_succ_of_ne_zero (Nat.ne_zero_of_lt enough)
    exact ⟨_, rfl⟩
  | cons v items =>
    obtain ⟨less, text, c, tail, o, offset', rfl, shape, passed, ⟨_, closing, _⟩, members⟩ :=
      (readsMembers_items layout (depth + 1)).enclosed back layout depth '[' fuel offset rest [] enough
    refine ⟨offset', ?_⟩
    rw [shape, readValue_bracket passed closing, members, List.foldl_flip_cons_eq_append', List.append_nil,
      List.reverse_reverse]

/-! ## Objects -/

theorem writeField_head (e : String × Value) (layout : Layout) (depth : Nat) :
    ∃ c more, writeField layout depth e = c :: more ∧ Opening c := by
  obtain ⟨key, v⟩ := e
  exact ⟨'"', _, rfl, by decide⟩

theorem writeFields_eq_map (layout : Layout) (depth : Nat) (fields : Fields) :
    writeFields layout depth fields = fields.map (writeField layout depth) := by
  induction fields with
  | nil => rfl
  | cons e rest ih => rw [writeFields, ih, List.map_cons]

theorem not_mem_keys_of_nodup {read : Fields} {key : String} {v : Value} {es : Fields}
    (single : (Fields.keys (read ++ (key, v) :: es)).Nodup) : key ∉ Fields.keys read := by
  rw [Fields.keys, List.map_append, List.map_cons, List.nodup_append] at single
  exact fun member => single.2.2 key member key List.mem_cons_self rfl

/-- Fields under keys of their own are put one after another. -/
theorem foldl_put_of_nodup {read fields : Fields} (single : (Fields.keys (read ++ fields)).Nodup) :
    fields.foldl (fun read e => Fields.put e.1 e.2 read) read = read ++ fields := by
  induction fields generalizing read with
  | nil => rw [List.foldl_nil, List.append_nil]
  | cons e es ih =>
    obtain ⟨key, v⟩ := e
    rw [List.foldl_cons, put_of_not_mem (not_mem_keys_of_nodup single), ih (by simpa using single), List.append_assoc,
      List.singleton_append]

/-- What is read after a field: that the object ends, or another field. -/
def afterField (fuel : Nat) (c : Cursor) (read : Fields) : Except Error (Value × Cursor) :=
  match c.rest with
  | '\x7d' :: _ => .ok (.object read, c.skip 1)
  | ',' :: _ => readFields fuel (c.skip 1).blanks read
  | _ => c.fail .comma

/-- A field is read back, and then what comes after it. -/
theorem readFields_field {v : Value} (back : ReadsBack v) (key : String) (layout : Layout) (depth fuel : Nat)
    (offset : Nat) {tail : List Char} (read : Fields) (enough : (writeValue layout depth v).length ≤ fuel) (ends : Ends tail) :
    ∃ offset', readFields (fuel + 1) ⟨writeText key ++ ':' :: ' ' :: (writeValue layout depth v ++ tail), offset⟩ read =
      afterField fuel (Cursor.blanks ⟨tail, offset'⟩) (Fields.put key v read) := by
  obtain ⟨c, more, text, solid, _⟩ := writeValue_head v layout depth
  obtain ⟨o₁, named⟩ := string_writeText key (':' :: ' ' :: (writeValue layout depth v ++ tail)) offset
  obtain ⟨o₂, passed⟩ := skipBlanks_blanks (by simp [Blanks] : Blanks [' ']) solid (more ++ tail) (o₁ + 1)
  obtain ⟨o₃, value⟩ := back layout depth fuel o₂ tail enough ends
  refine ⟨o₃, ?_⟩
  have begins : ∃ inside, writeText key ++ ':' :: ' ' :: (writeValue layout depth v ++ tail) = '"' :: inside := ⟨_, rfl⟩
  obtain ⟨inside, shape⟩ := begins
  have colon : Cursor.blanks ⟨':' :: ' ' :: (writeValue layout depth v ++ tail), o₁⟩ =
      ⟨':' :: ' ' :: (writeValue layout depth v ++ tail), o₁⟩ := skipBlanks_solid (by decide) _ _
  have behind : (Cursor.skip ⟨':' :: ' ' :: (writeValue layout depth v ++ tail), o₁⟩ 1).blanks =
      ⟨writeValue layout depth v ++ tail, o₂⟩ := by
    rw [text]
    exact passed
  rw [shape] at named ⊢
  simp only [readFields, named, bind, Except.bind, colon, behind, value]
  rfl

theorem readsMembers_fields (layout : Layout) (depth : Nat) :
    ReadsMembers (fun e => ReadsBack e.2) (writeField layout depth) (fun read e => Fields.put e.1 e.2 read) .object
      readFields afterField '\x7d' where
  closes := .inr rfl
  opens e := writeField_head e layout depth
  member {e} back fuel offset read tail enough ends := by
    obtain ⟨key, v⟩ := e
    have shape : writeField layout depth (key, v) = writeText key ++ ':' :: ' ' :: writeValue layout depth v := rfl
    rw [shape] at enough ⊢
    simp only [List.length_append, List.length_cons] at enough
    rw [List.append_assoc, List.cons_append, List.cons_append]
    exact readFields_field back key layout depth fuel offset read (by dsimp only; omega) ends
  closed _ _ _ _ := rfl
  comma _ _ _ _ := rfl

theorem readValue_brace {text tail : List Char} {c : Char} {offset passedTo : Nat}
    (passed : Cursor.blanks ⟨text, offset + 1⟩ = ⟨c :: tail, passedTo⟩) (full : c ≠ '\x7d') (fuel : Nat) :
    readValue (fuel + 1) ⟨'\x7b' :: text, offset⟩ = readFields fuel ⟨c :: tail, passedTo⟩ [] := by
  have inside : (Cursor.skip ⟨'\x7b' :: text, offset⟩ 1).blanks = ⟨c :: tail, passedTo⟩ := passed
  simp [readValue, inside, full]

theorem readsBack_object {fields : Fields} (single : fields.keys.Nodup) (back : ∀ e ∈ fields, ReadsBack e.2) :
    ReadsBack (.object fields) := by
  intro layout depth fuel offset rest enough _
  rw [writeValue, writeFields_eq_map] at enough ⊢
  cases fields with
  | nil =>
    obtain ⟨fuel, rfl⟩ := Nat.exists_eq_succ_of_ne_zero (Nat.ne_zero_of_lt enough)
    exact ⟨_, rfl⟩
  | cons e es =>
    obtain ⟨less, text, c, tail, o, offset', rfl, shape, passed, ⟨_, _, closing, _⟩, members⟩ :=
      (readsMembers_fields layout (depth + 1)).enclosed back layout depth '\x7b' fuel offset rest [] enough
    refine ⟨offset', ?_⟩
    rw [shape, readValue_brace passed closing, members, foldl_put_of_nodup single, List.nil_append]

/-! ## Values -/

theorem readValue_scalar {c : Char} (plain : c ≠ '"' ∧ c ≠ '\x7b' ∧ c ≠ '[') (fuel : Nat) (more : List Char) (offset : Nat) :
    readValue (fuel + 1) ⟨c :: more, offset⟩ = Cursor.scalar ⟨c :: more, offset⟩ := by
  obtain ⟨quote, brace, bracket⟩ := plain
  simp [readValue, quote, brace, bracket]

theorem plain_of_digit {c : Char} (digit : c.isDigit = true) : c ≠ '"' ∧ c ≠ '\x7b' ∧ c ≠ '[' := by
  refine ⟨?_, ?_, ?_⟩ <;>
  · rintro rfl
    exact absurd digit (by decide)

/-- Values that a text gives are read back from their text. -/
theorem Proper.readsBack {v : Value} (proper : Proper v) : ReadsBack v := by
  induction proper with
  | null =>
    intro layout depth fuel offset rest enough _
    obtain ⟨fuel, rfl⟩ := Nat.exists_eq_succ_of_ne_zero (Nat.ne_zero_of_lt enough)
    exact ⟨_, rfl⟩
  | bool b =>
    intro layout depth fuel offset rest enough _
    cases b <;>
    · obtain ⟨fuel, rfl⟩ := Nat.exists_eq_succ_of_ne_zero (Nat.ne_zero_of_lt enough)
      exact ⟨_, rfl⟩
  | @int n short =>
    intro layout depth fuel offset rest enough ends
    obtain ⟨c, more, text, first⟩ := decimalInt_head n
    have read := scalar_int short ends offset
    rw [writeValue, text] at enough ⊢
    obtain ⟨fuel, rfl⟩ := Nat.exists_eq_succ_of_ne_zero (Nat.ne_zero_of_lt enough)
    have plain : c ≠ '"' ∧ c ≠ '\x7b' ∧ c ≠ '[' := by
      rcases first with digit | rfl
      · exact plain_of_digit digit
      · decide
    rw [text] at read
    exact ⟨_, (readValue_scalar plain fuel _ offset).trans read⟩
  | @real x canonical =>
    intro layout depth fuel offset rest enough ends
    obtain ⟨c, more, text, first⟩ := realText_head x
    have read := scalar_real canonical ends offset
    rw [writeValue, text] at enough ⊢
    obtain ⟨fuel, rfl⟩ := Nat.exists_eq_succ_of_ne_zero (Nat.ne_zero_of_lt enough)
    have plain : c ≠ '"' ∧ c ≠ '\x7b' ∧ c ≠ '[' := by
      rcases first with digit | rfl | rfl | rfl
      · exact plain_of_digit digit
      · decide
      · decide
      · decide
    rw [text] at read
    exact ⟨_, (readValue_scalar plain fuel _ offset).trans read⟩
  | text s =>
    intro layout depth fuel offset rest enough _
    obtain ⟨offset', read⟩ := string_writeText s rest offset
    rw [writeValue] at enough ⊢
    obtain ⟨fuel, rfl⟩ := Nat.exists_eq_succ_of_ne_zero (Nat.ne_zero_of_lt enough)
    refine ⟨offset', ?_⟩
    have begins : ∃ inside, writeText s ++ rest = '"' :: inside := ⟨_, rfl⟩
    obtain ⟨inside, shape⟩ := begins
    rw [shape] at read ⊢
    simp only [readValue, read, bind, Except.bind]
  | list _ ih => exact readsBack_list ih
  | object single _ ih => exact readsBack_object single ih

/-- The text of a value is read as the value. -/
theorem readChars_writeValue {v : Value} (proper : Proper v) (layout : Layout) (depth : Nat) :
    readChars (writeValue layout depth v) = .ok v := by
  obtain ⟨c, more, text, solid, _, _, unmarked⟩ := writeValue_head v layout depth
  have front : Cursor.blanks ⟨writeValue layout depth v, 0⟩ = ⟨writeValue layout depth v, 0⟩ := by
    rw [text]
    exact skipBlanks_solid solid more 0
  obtain ⟨offset, read⟩ := proper.readsBack layout depth (2 * (writeValue layout depth v).length + 2) 0 [] (by omega)
    (by simp [Ends])
  rw [List.append_nil, text] at read
  rw [text] at front ⊢
  rw [readChars]
  · simp only [front, read, bind, Except.bind]
    rfl
  · rintro rest same
    cases same
    exact unmarked rfl

/-- The text of a value on one line is read as the value. -/
theorem read_render {v : Value} (proper : Proper v) : read (render v) = .ok v := by
  rw [read, render, String.toList_ofList, readChars_writeValue proper]
  rfl

end Diagnosis.Json
