import Mathlib.Algebra.Group.Nat.Defs
import Mathlib.Data.List.Induction
import Diagnosis.Proofs.Pattern.Grammar

/-!
# Patterns beyond the limits

Most texts are refused as patterns for a fault of the text, which says where it is. Numbers of
repetitions and code points have limits of their own, and so has the number of digits; and two
options for letters exclude each other, which shows only when everything has been read. A reader
that stops at one of these has what it stops at in its text.
-/

namespace Diagnosis.Pattern

open Reader
open Diagnosis.Text (hexValue?)

variable {α β : Type} {cs : List Char}

/-! ## What a text has too much of -/

/-- A text sets an option for everything with a letter. -/
def SetsWith (cs : List Char) (letter : Char) : Prop :=
  ∃ letters, '(' :: '?' :: (letters ++ [')']) <:+: cs ∧ (∀ l ∈ letters, (Flag.of? l).isSome = true) ∧ letter ∈ letters

/-- Digits stand in a text where a number of repetitions does, least or most. -/
def CountIn (cs ds : List Char) : Prop :=
  (∀ d ∈ ds, d.isDigit = true) ∧ ('\x7b' :: ds <:+: cs ∨ ',' :: ds <:+: cs)

/-- What a text has that is beyond a limit, where an error says so. -/
inductive Excess (cs : List Char) : Error → Prop where
  /-- A number of repetitions is too large. -/
  | count {ds : List Char} (stands : CountIn cs ds) (large : countLimit ≤ decimalValue ds) : Excess cs .repetitionLimit
  /-- A number of repetitions has too many digits to be read. -/
  | digits {ds : List Char} (stands : CountIn cs ds) (long : 4300 < ds.length) : Excess cs (.digitLimit ds.length)
  /-- An escape of eight digits stands for no machine integer. -/
  | code {ds : List Char} (stands : '\\' :: 'U' :: ds <:+: cs) (digits : ∀ d ∈ ds, (hexValue? d).isSome = true)
    (eight : ds.length = 8) (large : 0x7FFFFFFF < hexadecimalValue ds) : Excess cs .codePointLimit
  /-- Letters are to be those of ASCII alone, and those of all scripts. -/
  | letters (ascii : SetsWith cs 'a') (unicode : SetsWith cs 'u') : Excess cs .asciiAndUnicode

/-- An error is a fault of the pattern, or the text has too much of something. -/
def Accounted (cs : List Char) (e : Error) : Prop := e.kind = .invalid ∨ Excess cs e

/-! ## How many groups there are -/

/-- How many groups a node has. -/
def Node.captures : Node → Nat
  | .empty | .one _ | .anchor _ | .again _ _ => 0
  | .seq a b | .either a b | .ifGroup _ a b => a.captures + b.captures
  | .group _ a => a.captures + 1
  | .ahead _ a | .behind _ _ _ a | .atomic a | .many _ _ _ a => a.captures

/-- How many groups some items have. -/
def capturesOf : List Item → Nat
  | [] => 0
  | i :: items => i.node.captures + capturesOf items

theorem capturesOf_append (first second : List Item) :
    capturesOf (first ++ second) = capturesOf first + capturesOf second := by
  induction first with
  | nil => exact (Nat.zero_add _).symm
  | cons i first ih =>
    rw [List.cons_append, capturesOf, capturesOf, ih]
    omega

theorem capturesOf_reverse (items : List Item) : capturesOf items.reverse = capturesOf items := by
  induction items with
  | nil => rfl
  | cons i items ih =>
    rw [List.reverse_cons, capturesOf_append, ih, capturesOf, capturesOf, capturesOf]
    omega

/-- One more item comes first of those that have been read. -/
theorem add_capturesOf (count : Nat) (i : Item) (read : List Item) :
    count + capturesOf read + i.node.captures = count + capturesOf (i :: read) := by
  rw [capturesOf]
  omega

theorem captures_sequence (items : List Item) : (Item.sequence items).node.captures = capturesOf items := by
  induction items with
  | nil => rfl
  | cons i rest ih =>
    cases rest with
    | nil => rfl
    | cons j rest => rw [capturesOf, ← ih]; rfl

theorem captures_alternatives (items : List Item) : (Item.alternatives items).node.captures = capturesOf items := by
  induction items with
  | nil => rfl
  | cons i rest ih =>
    cases rest with
    | nil => rfl
    | cons j rest => rw [capturesOf, ← ih]; rfl

/-! ## Readers whose errors are accounted for -/

/-- A reader that begins where `P` holds gives something with which `Q` holds, or stops at an error
that is accounted for. -/
def Sound (cs : List Char) (P : State → Prop) (m : Reader α) (Q : α → State → Prop) : Prop :=
  ∀ s, P s → match m s with
    | .ok (a, t) => Q a t
    | .error e => Accounted cs e

section
variable {P P' : State → Prop} {Q Q' : α → State → Prop} {R : β → State → Prop}

theorem Sound.conseq {m : Reader α} (h : Sound cs P m Q) (before : ∀ s, P' s → P s) (after : ∀ a s, Q a s → Q' a s) :
    Sound cs P' m Q' := by
  intro s holds
  have met := h s (before s holds)
  cases done : m s with
  | error e => simpa only [done] using met
  | ok r =>
    rw [done] at met
    exact after _ _ met

theorem Sound.bind {m : Reader α} {k : α → Reader β} (first : Sound cs P m Q) (second : ∀ a, Sound cs (Q a) (k a) R) :
    Sound cs P (m >>= k) R := by
  intro s holds
  have met := first s holds
  cases done : m s with
  | error e => rw [bind_of_error done]; simpa only [done] using met
  | ok r =>
    rw [done] at met
    rw [bind_of_ok (a := r.1) (t := r.2) done]
    exact second _ _ met

theorem sound_pure {a : α} (holds : ∀ s, P s → Q a s) : Sound cs P (pure a : Reader α) Q := holds

theorem sound_throw {e : Error} (accounted : ∀ s, P s → Accounted cs e) : Sound cs P (throw e : Reader α) Q := accounted

theorem sound_failAt (what : Fault) (position : Nat) : Sound cs P (failAt what position : Reader α) Q :=
  fun _ _ => .inl rfl

theorem sound_fail (what : Fault) (back : Nat) : Sound cs P (fail what back : Reader α) Q := fun _ _ => .inl rfl

theorem sound_get {k : State → Reader α} (second : ∀ s, P s → Sound cs P (k s) Q) : Sound cs P (get >>= k) Q :=
  fun s holds => second s holds s holds

theorem sound_pos {k : Nat → Reader α} (second : ∀ p, Sound cs P (k p) Q) : Sound cs P (pos >>= k) Q :=
  fun s holds => second s.cursor.pos s holds

theorem sound_peek {k : Option Token → Reader α}
    (second : ∀ o, Sound cs (fun s => P s ∧ s.cursor.token? = o) (k o) Q) : Sound cs P (peek >>= k) Q :=
  fun s holds => second s.cursor.token? s ⟨holds, rfl⟩

theorem sound_modify {f : State → State} {Q : Unit → State → Prop} (holds : ∀ s, P s → Q () (f s)) :
    Sound cs P (modify f : Reader Unit) Q := holds

theorem sound_ite {c : Prop} [Decidable c] {m n : Reader α} (yes : c → Sound cs P m Q) (no : ¬ c → Sound cs P n Q) :
    Sound cs P (if c then m else n) Q := by
  split
  · exact yes ‹_›
  · exact no ‹_›

/-- Where a reader stops under a condition. -/
theorem sound_guard {c : Prop} [Decidable c] {m : Reader β} {k : β → Reader α} {r : Reader α}
    (stops : c → Sound cs P m fun _ _ => False) (passed : ¬ c → Sound cs P r Q) :
    Sound cs P (if c then m >>= k else r) Q :=
  sound_ite (fun holds => (stops holds).bind fun _ _ impossible => impossible.elim) passed

theorem sound_unless {c : Prop} [Decidable c] {what : Fault} {back : Nat} {k : β → Reader α} {r : Reader α}
    (passed : ¬ c → Sound cs P r Q) : Sound cs P (if c then fail what back >>= k else r) Q :=
  sound_guard (fun _ => sound_fail what back) passed

end

/-! ## Reading within a text -/

/-- What is left of a text, right after what has just been read, with so many groups so far. Options
that hold everywhere have been set in the text. -/
structure Within (cs before : List Char) (count : Nat) (s : State) : Prop where
  text : before ++ s.cursor.rest <:+ cs
  groups : s.groups.size = count
  ascii : s.asciiSet = true → SetsWith cs 'a'
  unicode : s.unicodeSet = true → SetsWith cs 'u'

section
variable {before : List Char} {count : Nat} {s : State}

theorem Within.forget (within : Within cs before count s) : Within cs [] count s :=
  { within with text := (List.suffix_append before s.cursor.rest).trans within.text }

/-- What has just been read stands in the text. -/
theorem Within.stands (within : Within cs before count s) : before <:+: cs :=
  (List.prefix_append before s.cursor.rest).isInfix.trans within.text.isInfix

/-- The characters of a token that may be missing. -/
def taken (o : Option Token) : List Char := o.elim [] Token.chars

theorem next_cases (c : Cursor) : (∃ d, c.next = .ok d ∧ c.rest = taken c.token? ++ d.rest) ∨
    ∃ position, c.next = .error (.place .escapeAtEnd position) := by
  by_cases lone : c.rest = ['\\']
  · refine .inl ⟨c, ?_, ?_⟩ <;> simp [Cursor.next, Cursor.token?, lone, taken]
  rcases chars_cases lone with ended | ⟨t, left, shape, proper⟩
  · refine .inl ⟨c, ?_, ?_⟩ <;> simp [Cursor.next, Cursor.token?, ended, taken]
  · rw [next_chars proper shape, token?_chars proper shape]
    unfold Cursor.checked
    split
    · exact .inr ⟨_, rfl⟩
    · exact .inl ⟨_, rfl, shape⟩

theorem sound_take_of (o : Option Token) :
    Sound cs (fun s => Within cs before count s ∧ s.cursor.token? = o) take
      fun _ => Within cs (before ++ taken o) count := by
  rintro s ⟨within, rfl⟩
  rcases next_cases s.cursor with ⟨d, next, shape⟩ | ⟨position, next⟩
  · rw [take_ok next]
    exact { within with text := by rw [List.append_assoc, ← shape]; exact within.text }
  · rw [take_error next]
    exact .inl rfl

theorem sound_take : Sound cs (Within cs before count) take fun o => Within cs (before ++ taken o) count := by
  intro s within
  have met := sound_take_of s.cursor.token? s ⟨within, rfl⟩
  cases done : take s with
  | error e => simpa only [done] using met
  | ok r =>
    have token : r.1 = s.cursor.token? := take_token (u := r.2) done
    rw [done] at met
    rwa [← token] at met

theorem sound_accept_then {c : Char} {k : Bool → Reader α} {Q : α → State → Prop}
    (yes : Sound cs (Within cs (before ++ [c]) count) (k true) Q) (no : Sound cs (Within cs before count) (k false) Q) :
    Sound cs (Within cs before count) (accept c >>= k) Q := by
  intro s within
  by_cases stands : s.cursor.token? = some (.plain c)
  · rw [accept_bind_of_stands stands]
    exact ((sound_take_of (some (.plain c))).bind fun _ => yes) s ⟨within, stands⟩
  · rw [bind_of_ok (accept_of_not stands)]
    exact no s within

theorem sound_accept (c : Char) : Sound cs (Within cs before count) (accept c) fun _ => Within cs [] count := by
  have both : Sound cs (Within cs before count) (accept c >>= pure) fun _ => Within cs [] count :=
    sound_accept_then (sound_pure fun _ => Within.forget) (sound_pure fun _ => Within.forget)
  rwa [bind_pure] at both

theorem sound_closeAt (start : Nat) : Sound cs (Within cs before count) (closeAt start) fun _ => Within cs [] count :=
  (sound_accept ')').bind fun _ => sound_ite (fun _ => sound_failAt _ _) fun _ => sound_pure fun _ => id

/-! ### Runs of characters and names -/

theorem sound_takeWhile (p : Char → Bool) (k : Nat) : Sound cs (Within cs before count) (takeWhile p k)
    fun ds s => Within cs (before ++ ds) count s ∧ (∀ d ∈ ds, p d = true) ∧ ds.length ≤ k := by
  induction k generalizing before with
  | zero => exact sound_pure fun s within => ⟨by rwa [List.append_nil], by simp, Nat.le_refl 0⟩
  | succ k ih =>
    intro s within
    by_cases goes : ∃ c, s.cursor.token? = some (.plain c) ∧ p c = true
    · obtain ⟨c, stands, goes⟩ := goes
      rw [takeWhile_goes stands goes]
      refine ((sound_take_of (some (.plain c))).bind fun _ => ih.bind fun ds => sound_pure ?_) s ⟨within, stands⟩
      rintro t ⟨further, all, short⟩
      refine ⟨by simpa [taken, Token.chars] using further, ?_, Nat.succ_le_succ short⟩
      rintro d (_ | ⟨_, member⟩)
      · exact goes
      · exact all d member
    · rw [takeWhile_stops fun c stands => Bool.eq_false_iff.2 fun accepted => goes ⟨c, stands, accepted⟩]
      exact ⟨by rwa [List.append_nil], by simp, Nat.zero_le _⟩

theorem sound_takeUntil (terminator : Char) (what : String) (fuel : Nat) (read : List Char) :
    Sound cs (Within cs before count) (takeUntil terminator what fuel read) fun _ => Within cs [] count := by
  induction fuel generalizing before read with
  | zero => exact sound_fail _ _
  | succ fuel ih =>
    refine sound_take.bind fun o => ?_
    cases o with
    | none => exact sound_ite (fun _ => sound_fail _ _) fun _ => sound_fail _ _
    | some t =>
      refine sound_ite (fun _ => ?_) fun _ => ih _
      exact sound_ite (fun _ => sound_fail _ _) fun _ => sound_pure fun _ => Within.forget

theorem sound_name (terminator : Char) (what : String) :
    Sound cs (Within cs before count) (name terminator what) fun _ => Within cs [] count :=
  sound_get fun _ _ => sound_takeUntil _ _ _ _

theorem sound_checkBehind {P : State → Prop} (number : Nat) : Sound cs P (checkBehind number) fun _ => P := by
  refine sound_get fun s _ => ?_
  cases s.behindFrom with
  | none => exact sound_pure fun _ => id
  | some known =>
    refine Sound.bind (sound_get fun s _ => sound_pure (Q := fun _ => P) fun _ => id) fun closed => ?_
    exact sound_unless fun _ => sound_ite (fun _ => sound_fail _ _) fun _ => sound_pure fun _ => id

/-! ### Escapes -/

theorem hexValue?_lt {c : Char} {n : Nat} (value : hexValue? c = some n) : n < 16 := by
  have plain (d : Char) : d.val.toNat = d.toNat := rfl
  unfold hexValue? at value
  simp only [Bool.and_eq_true, decide_eq_true_eq, Char.le_def, UInt32.le_iff_toNat_le, plain,
    show '9'.toNat = 57 from rfl, show 'f'.toNat = 102 from rfl, show 'F'.toNat = 70 from rfl] at value
  split at value
  · cases value
    omega
  · split at value
    · cases value
      omega
    · split at value
      · cases value
        omega
      · cases value

theorem hexadecimalValue_lt (ds : List Char) : hexadecimalValue ds < 16 ^ ds.length := by
  induction ds using List.reverseRecOn with
  | nil => decide
  | append_singleton ds d ih =>
    have digit : (hexValue? d).getD 0 < 16 := by
      cases value : hexValue? d with
      | none => decide
      | some n => exact hexValue?_lt value
    have last : hexadecimalValue (ds ++ [d]) = 16 * hexadecimalValue ds + (hexValue? d).getD 0 := by
      simp [hexadecimalValue]
    rw [last, List.length_append, List.length_singleton, Nat.pow_succ]
    omega

/-- Only eight digits can spell a number beyond the machine integers. -/
theorem sound_readHexEscape {letter : Char} {size : Nat} (sized : size ≤ 4 ∨ size = 8 ∧ letter = 'U') :
    Sound cs (Within cs ['\\', letter] count) (readHexEscape letter size) fun _ => Within cs [] count := by
  refine (sound_takeWhile _ size).bind fun ds => sound_unless fun full => ?_
  have length : ds.length = size := Decidable.not_not.mp full
  refine sound_guard (fun large => sound_throw ?_) fun _ => sound_unless fun _ => sound_pure fun _ held => held.1.forget
  rintro s ⟨within, digits, -⟩
  rcases sized with short | ⟨rfl, rfl⟩
  · have bound := hexadecimalValue_lt ds
    have power : 16 ^ ds.length ≤ 16 ^ 4 := Nat.pow_le_pow_right (by decide) (by omega)
    omega
  · exact .inr (.code within.stands digits length large)

theorem sound_readNamed : Sound cs (Within cs before count) readNamed fun _ => Within cs [] count := by
  refine (sound_accept _).bind fun opened => sound_unless fun _ => (sound_name _ _).bind fun name => ?_
  split
  · exact sound_pure fun _ => id
  · exact sound_fail _ _

theorem sound_readSpelled? (c : Char) :
    Sound cs (Within cs ['\\', c] count) (readSpelled? c) fun _ => Within cs [] count := by
  refine sound_ite (fun _ => ?_) fun _ => sound_ite (fun _ => ?_) fun _ => sound_ite (fun eight => ?_) fun _ =>
    sound_ite (fun _ => ?_) fun _ => sound_pure fun _ => Within.forget
  · exact (sound_readHexEscape (.inl (by decide))).bind fun _ => sound_pure fun _ => id
  · exact (sound_readHexEscape (.inl (by decide))).bind fun _ => sound_pure fun _ => id
  · exact (sound_readHexEscape (.inr ⟨rfl, beq_iff_eq.mp eight⟩)).bind fun _ => sound_pure fun _ => id
  · exact sound_readNamed.bind fun _ => sound_pure fun _ => id

theorem sound_readItself {P : State → Prop} (c : Char) : Sound cs P (readItself c) fun _ => P :=
  sound_unless fun _ => sound_pure fun _ => id

theorem sound_readSetEscape (m : Mode) (c : Char) :
    Sound cs (Within cs ['\\', c] count) (readSetEscape m c) fun _ => Within cs [] count := by
  unfold readSetEscape
  dsimp only
  cases controlOf? c with
  | some code => exact sound_pure fun _ => Within.forget
  | none =>
    cases categoryOf? m c with
    | some k => exact sound_pure fun _ => Within.forget
    | none =>
      refine (sound_readSpelled? c).bind fun spelled => ?_
      cases spelled with
      | some code => exact sound_pure fun _ => id
      | none =>
        refine sound_ite (fun _ => ?_) fun _ => ?_
        · refine (sound_takeWhile _ _).bind fun ds => sound_unless fun _ => sound_pure fun _ held => held.1.forget
        · exact sound_unless fun _ => (sound_readItself c).bind fun _ => sound_pure fun _ => id

/-! ### Sets -/

theorem sound_readMember (m : Mode) (t : Token) :
    Sound cs (Within cs (before ++ t.chars) count) (readMember m t) fun _ => Within cs [] count := by
  cases t with
  | plain c => exact sound_pure fun _ => Within.forget
  | escaped c =>
    refine (sound_readSetEscape m c).conseq (fun s within => ?_) fun _ _ => id
    refine { within with text := ?_ }
    have shifted := within.text
    rw [List.append_assoc] at shifted
    exact (List.suffix_append before _).trans shifted

theorem sound_readMembers (m : Mode) (start fuel : Nat) (read : List Member) :
    Sound cs (Within cs before count) (readMembers m start fuel read) fun _ => Within cs [] count := by
  induction fuel generalizing before read with
  | zero => exact sound_failAt _ _
  | succ fuel ih =>
    refine sound_take.bind fun o => ?_
    cases o with
    | none => exact sound_failAt _ _
    | some this =>
      refine sound_ite (fun _ => sound_pure fun _ => Within.forget) fun _ => ?_
      refine (sound_readMember m this).bind fun low => (sound_accept _).bind fun hyphen => ?_
      refine sound_ite (fun _ => sound_take.bind fun o => ?_) fun _ => ih _
      cases o with
      | none => exact sound_failAt _ _
      | some that =>
        refine sound_ite (fun _ => sound_pure fun _ => Within.forget) fun _ => ?_
        refine (sound_readMember m that).bind fun high => ?_
        split
        · exact sound_unless fun _ => ih _
        · exact sound_fail _ _

theorem sound_readSet (m : Mode) : Sound cs (Within cs before count) (readSet m)
    fun i => Within cs [] (count + i.node.captures) := by
  refine sound_pos fun p => (sound_accept _).bind fun other => sound_get fun s _ => ?_
  refine (sound_readMembers m _ _ []).bind fun members => ?_
  split <;> exact sound_pure fun _ => id

/-! ### References and escapes that are items -/

theorem sound_readReference (m : Mode) (first : Char) : Sound cs (Within cs before count) (readReference m first)
    fun i => Within cs [] (count + i.node.captures) := by
  refine (sound_takeWhile _ _).bind fun second => ?_
  extract_lets complete
  have completed (third : List Char) : Sound cs (Within cs [] count) (complete third)
      fun i => Within cs [] (count + i.node.captures) := by
    refine sound_ite (fun _ => sound_unless fun _ => sound_pure fun _ => id) fun _ => sound_get fun s _ => ?_
    split
    · exact sound_fail _ _
    · exact sound_fail _ _
    · exact (sound_checkBehind _).bind fun _ => sound_pure fun _ => id
  refine sound_ite (fun _ => ?_) fun _ => (completed []).conseq (fun _ held => held.1.forget) fun _ _ => id
  have third : Sound cs (Within cs (before ++ second) count) (takeWhile isOctal 1) fun _ => Within cs [] count :=
    (sound_takeWhile isOctal 1).conseq (fun _ => id) fun _ _ held => held.1.forget
  exact (third.bind completed).conseq (fun _ held => held.1) fun _ _ => id

theorem sound_readEscape (m : Mode) (c : Char) : Sound cs (Within cs ['\\', c] count) (readEscape m c)
    fun i => Within cs [] (count + i.node.captures) := by
  refine sound_ite (fun _ => sound_pure fun _ => Within.forget) fun _ => ?_
  refine sound_ite (fun _ => sound_pure fun _ => Within.forget) fun _ => ?_
  refine sound_ite (fun _ => sound_pure fun _ => Within.forget) fun _ => ?_
  refine sound_ite (fun _ => sound_pure fun _ => Within.forget) fun _ => ?_
  cases categoryOf? m c with
  | some k => exact sound_pure fun _ => Within.forget
  | none =>
    cases controlOf? c with
    | some code => exact sound_pure fun _ => Within.forget
    | none =>
      refine (sound_readSpelled? c).bind fun spelled => ?_
      cases spelled with
      | some code => exact sound_pure fun _ => id
      | none =>
        refine sound_ite (fun _ => ?_) fun _ => sound_ite (fun _ => sound_readReference m c) fun _ => ?_
        · exact (sound_takeWhile _ _).bind fun ds => sound_pure fun _ held => held.1.forget
        · exact (sound_readItself c).bind fun code => sound_pure fun _ => id

/-! ### Quantifiers -/

/-- A number of repetitions has too many digits or is too large, or is read. -/
theorem sound_readCount {P : State → Prop} {ds : List Char} (stands : CountIn cs ds) :
    Sound cs P (readCount ds) fun _ => P :=
  sound_guard (fun long => sound_throw fun _ _ => .inr (.digits stands long)) fun _ =>
    sound_guard (fun large => sound_throw fun _ _ => .inr (.count stands large)) fun _ => sound_pure fun _ => id

theorem sound_boundsOf {P : State → Prop} {low high : List Char} (position : Nat) (least : CountIn cs low)
    (most : CountIn cs high) : Sound cs P (boundsOf position low high) fun _ => P := by
  unfold boundsOf
  extract_lets complete
  have completed (n : Nat) : Sound cs P (complete n) fun _ => P := by
    refine sound_ite (fun _ => sound_pure fun _ => id) fun _ => (sound_readCount most).bind fun most => ?_
    exact sound_guard (fun _ => sound_failAt _ _) fun _ => sound_pure fun _ => id
  exact sound_ite (fun _ => completed 0) fun _ => (sound_readCount least).bind completed

/-- What stands before the digits of both bounds is seen when they are read. -/
theorem sound_readBraced (limit : Nat) : Sound cs (Within cs ['\x7b'] count) (readBraced limit)
    fun r s => Within cs [] count s ∧ CountIn cs r.1 ∧ CountIn cs r.2.1 := by
  refine (sound_takeWhile _ limit).bind fun low => ?_
  rintro s ⟨within, digits, -⟩
  have least : CountIn cs low := ⟨digits, .inl within.stands⟩
  refine (?_ : Sound cs (Within cs ('\x7b' :: low) count) _ _) s within
  have closed {before high : List Char} (most : CountIn cs high) :
      Sound cs (Within cs before count) (accept '\x7d' >>= fun closed => pure (low, high, closed))
        fun r s => Within cs [] count s ∧ CountIn cs r.1 ∧ CountIn cs r.2.1 :=
    (sound_accept _).bind fun _ => sound_pure fun _ within => ⟨within, least, most⟩
  refine sound_accept_then ((sound_takeWhile _ limit).bind fun high => ?_) (closed least)
  rintro t ⟨further, digitsToo, -⟩
  have follows : ',' :: high <:+: cs :=
    (List.suffix_append ('\x7b' :: low) (',' :: high)).isInfix.trans (by simpa using further.stands)
  exact closed ⟨digitsToo, .inr follows⟩ t further

theorem sound_readBounds? : Sound cs (Within cs ['\x7b'] count) readBounds? fun _ => Within cs [] count := by
  intro s within
  by_cases stands : s.cursor.token? = some (.plain '\x7d')
  · rw [readBounds?_empty stands]
    exact within.forget
  · rw [readBounds?_apply stands]
    refine ((sound_readBraced _).bind fun r => ?_) s within
    rintro t ⟨further, least, most⟩
    refine (?_ : Sound cs (Within cs [] count) (braced s r) fun _ => Within cs [] count) t further
    refine sound_ite (fun _ => sound_boundsOf _ least most) fun _ => ?_
    -- What is no bounds is read again from where the braces opened.
    exact fun _ _ => within.forget

theorem sound_readGreed : Sound cs (Within cs before count) readGreed fun _ => Within cs [] count :=
  (sound_accept '?').bind fun _ => sound_ite (fun _ => sound_pure fun _ => id) fun _ =>
    (sound_accept '+').bind fun _ => sound_ite (fun _ => sound_pure fun _ => id) fun _ => sound_pure fun _ => id

theorem sound_repeatLast (b : Bounds) (position : Nat) (items : List Item) :
    Sound cs (Within cs before (count + capturesOf items)) (repeatLast b position items)
      fun items => Within cs [] (count + capturesOf items) := by
  cases items with
  | nil => exact sound_failAt _ _
  | cons i rest =>
    refine sound_guard (fun _ => sound_failAt _ _) fun _ => sound_guard (fun _ => sound_failAt _ _) fun _ => ?_
    exact sound_readGreed.bind fun greed => sound_pure fun _ => id

end

end Diagnosis.Pattern
