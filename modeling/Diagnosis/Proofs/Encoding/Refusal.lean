import Diagnosis.Proofs.Engine.Isolation

/-!
# Encodings that refuse bytes as a whole

Decoding is meant to end with text or with a failure that says what is wrong with the
encoding or with the bytes. It does so unless the name of the encoding has a null
character in it, or the encoding is one of three that read bytes as a whole and refuses
them without naming a byte. Nothing else about an encoding comes between a source
file and its document.
-/

namespace Diagnosis

namespace Encoding

/-! ## What a name means -/

/-- The encoding, as it is listed, that a name means. -/
def meaning? (name : String) : Option String := (candidates name).find? fun c => (listed? c).isSome

/-- An encoding refuses bytes as a whole if it names no byte of them that is wrong. -/
def RefusesWhole (name : String) (bytes : List Nat) : Prop :=
  ∃ decode refusal, wholes.lookup name = some decode ∧ decode bytes = .error refusal ∧
    ∀ fault, refusal ≠ .fault fault

/-- The encodings that read bytes as a whole. -/
def wholeNames : List String := wholes.map Prod.fst

theorem findSome?_eq_bind_find? {α β : Type} (f : α → Option β) (xs : List α) :
    xs.findSome? f = (xs.find? fun x => (f x).isSome).bind f := by
  induction xs with
  | nil => rfl
  | cons x rest ih =>
    rw [List.findSome?_cons, List.find?_cons]
    cases found : f x with
    | none => exact ih
    | some y => exact found.symm

theorem find?_eq_bind (name : String) : find? name = (meaning? name).bind listed? :=
  findSome?_eq_bind_find? listed? (candidates name)

theorem mem_wholeNames_of_lookup {name : String} {decode : List Nat → Except Refusal (List Char)}
    (found : wholes.lookup name = some decode) : name ∈ wholeNames := by
  rw [List.lookup_eq_some_iff] at found
  obtain ⟨before, after, split, _⟩ := found
  have member : (name, decode) ∈ wholes := by
    rw [split]
    exact List.mem_append_right _ List.mem_cons_self
  exact List.mem_map.mpr ⟨_, member, rfl⟩

/-- No encoding is listed as one that reads bytes as a whole and as something else. -/
theorem listed?_wholeNames : ∀ name ∈ wholeNames, listed? name = (wholes.lookup name).map Codec.whole := by
  have apart : ∀ name ∈ wholeNames,
      binaryNames.contains name = false ∧ (manyBytes.lookup name).isNone = true ∧
      (Iso2022.variants.lookup name).isNone = true ∧ (singleBytes.find? fun t => t.name == name).isNone = true := by
    decide +kernel
  intro name member
  obtain ⟨text, stepwise, shifting, tabled⟩ := apart name member
  unfold listed?
  rw [text, Option.isNone_iff_eq_none.mp stepwise, Option.isNone_iff_eq_none.mp shifting,
    Option.isNone_iff_eq_none.mp tabled]
  rfl

/-- The encodings that are listed as reading bytes as a whole. -/
theorem listed?_eq_whole_iff {name : String} {decode : List Nat → Except Refusal (List Char)} :
    listed? name = some (.whole decode) ↔ wholes.lookup name = some decode := by
  constructor
  · intro found
    unfold listed? at found
    split at found
    · cases found
    · dsimp only at found
      rw [Option.or_eq_some_iff] at found
      rcases found with earlier | ⟨_, whole⟩
      · exfalso
        rw [Option.or_eq_some_iff, Option.or_eq_some_iff] at earlier
        rcases earlier with (steps | ⟨_, shifts⟩) | ⟨_, tables⟩
        · obtain ⟨_, _, same⟩ := Option.map_eq_some_iff.mp steps
          cases same
        · obtain ⟨_, _, same⟩ := Option.map_eq_some_iff.mp shifts
          cases same
        · obtain ⟨_, _, same⟩ := Option.map_eq_some_iff.mp tables
          cases same
      · obtain ⟨_, looked, same⟩ := Option.map_eq_some_iff.mp whole
        cases same
        exact looked
  · intro looked
    rw [listed?_wholeNames name (mem_wholeNames_of_lookup looked), looked]
    rfl

theorem refusesWhole_mem {name : String} {bytes : List Nat} (refused : RefusesWhole name bytes) :
    name ∈ wholeNames := by
  obtain ⟨decode, _, looked, _⟩ := refused
  exact mem_wholeNames_of_lookup looked

/-! ## What is refused -/

/-- One encoding is there to refuse everything. -/
theorem refusesWhole_undefined (bytes : List Nat) : RefusesWhole "undefined" bytes :=
  ⟨_, _, rfl, rfl, fun _ same => by cases same⟩

theorem decodeFrom_ascii_isOk (decoder : String) (position : Nat) (bytes : List Nat) :
    (decodeFrom decoder asciiStep bytes.length position bytes).isOk = bytes.all (· < 128) := by
  induction bytes generalizing position with
  | nil => rfl
  | cons b rest ih =>
    have first : asciiStep (b :: rest) =
        if b < 128 then .ok ([charOf b], 1) else .error ⟨1, "ordinal not in range(128)"⟩ := rfl
    rw [List.length_cons, decodeFrom, first, List.all_cons, ← ih (position + 1)]
    by_cases low : b < 128
    · rw [if_pos low, decide_eq_true low, Bool.true_and]
      dsimp only [List.drop_succ_cons, List.drop_zero, bind, Except.bind]
      rw [List.drop_one, List.tail_cons]
      cases decodeFrom decoder asciiStep rest.length (position + 1) rest <;> rfl
    · rw [if_neg low, decide_eq_false low]
      rfl

/-- Bytes are ASCII, or one of them is wrong. -/
theorem asciiPart_cases (bytes : List Nat) :
    bytes.all (· < 128) = true ∧ asciiPart bytes = .ok bytes ∨
    bytes.all (· < 128) = false ∧ ∃ fault, asciiPart bytes = .error (.fault fault) := by
  have decoded := decodeFrom_ascii_isOk "ascii" 0 bytes
  unfold asciiPart decodeAll
  cases result : decodeFrom "ascii" asciiStep bytes.length 0 bytes with
  | ok cs => exact .inl ⟨by rw [← decoded, result]; rfl, rfl⟩
  | error fault => exact .inr ⟨by rw [← decoded, result]; rfl, fault, rfl⟩

/-- The last hyphen, if there is one, is between the two parts. -/
theorem parts_cases (bytes : List Nat) :
    Punycode.parts bytes = (none, bytes) ∨
    ∃ base extended, bytes = base ++ 0x2D :: extended ∧ Punycode.parts bytes = (some base, extended) := by
  unfold Punycode.parts
  dsimp only
  have whole := List.takeWhile_append_dropWhile (p := (· ≠ 0x2D)) (l := bytes.reverse)
  have hyphen := List.head?_dropWhile_not (fun b : Nat => decide (b ≠ 0x2D)) bytes.reverse
  cases rest : bytes.reverse.dropWhile (· ≠ 0x2D) with
  | nil =>
    rw [rest, List.append_nil] at whole
    rw [if_pos (by rw [whole, List.length_reverse])]
    exact .inl rfl
  | cons b before =>
    rw [rest] at whole hyphen
    obtain rfl : b = 0x2D := Decidable.of_not_not (of_decide_eq_false hyphen)
    generalize bytes.reverse.takeWhile (· ≠ 0x2D) = after at whole
    have split : bytes = before.reverse ++ 0x2D :: after.reverse := by
      rw [← bytes.reverse_reverse, ← whole, List.reverse_append, List.reverse_cons, List.append_assoc]
      rfl
    have size : bytes.length - after.length - 1 = before.reverse.length := by
      rw [split, List.length_append, List.length_cons, List.length_reverse, List.length_reverse]
      omega
    refine .inr ⟨before.reverse, after.reverse, split, ?_⟩
    have shorter : after.length ≠ bytes.length := by
      rw [split, List.length_append, List.length_cons, List.length_reverse, List.length_reverse]
      omega
    rw [if_neg shorter, size]
    rw [split, List.take_left]

/-- The parts are ASCII if all is. -/
theorem parts_ascii (bytes : List Nat) :
    (((Punycode.parts bytes).1.getD []).all (· < 128) && (Punycode.parts bytes).2.all (· < 128)) =
      bytes.all (· < 128) := by
  rcases parts_cases bytes with undivided | ⟨base, extended, rfl, divided⟩
  · rw [undivided]
    rfl
  · rw [divided, List.all_append]
    rfl

/-- Numbers that are spelled wrong are not put down to one byte. -/
theorem numberFrom_error {bs : List Nat} {bias place weight sum : Nat} {refusal : Refusal}
    (failed : Punycode.numberFrom bias place weight sum bs = .error refusal) : ∃ text, refusal = .reason text := by
  induction bs generalizing place weight sum with
  | nil =>
    cases failed
    exact ⟨_, rfl⟩
  | cons b rest ih =>
    unfold Punycode.numberFrom at failed
    split at failed
    · cases failed
      exact ⟨_, rfl⟩
    · dsimp only at failed
      split at failed
      · cases failed
      · exact ih failed

theorem insertFrom_error {fuel code place bias : Nat} {first : Bool} {bs letters : List Nat} {refusal : Refusal}
    (failed : Punycode.insertFrom fuel first code place bias bs letters = .error refusal) :
    ∃ text, refusal = .reason text := by
  induction fuel generalizing first code place bias bs letters with
  | zero => cases failed
  | succ fuel ih =>
    cases bs with
    | nil => cases failed
    | cons b rest =>
      unfold Punycode.insertFrom at failed
      cases number : Punycode.numberFrom bias 0 1 0 (b :: rest) with
      | error wrong =>
        rw [number] at failed
        cases failed
        exact numberFrom_error number
      | ok read =>
        rw [number] at failed
        dsimp only [bind, Except.bind] at failed
        split at failed
        · cases failed
          exact ⟨_, rfl⟩
        · exact ih failed

/-- Letters in Punycode are refused as a whole if they are ASCII and spelled wrong. -/
theorem refusesWhole_punycode_iff (bytes : List Nat) :
    RefusesWhole "punycode" bytes ↔
      bytes.all (· < 128) = true ∧ ∃ refusal, Punycode.decode bytes = .error refusal := by
  have shape : RefusesWhole "punycode" bytes ↔
      ∃ refusal, Punycode.decode bytes = .error refusal ∧ ∀ fault, refusal ≠ .fault fault := by
    constructor
    · rintro ⟨decode, refusal, looked, refused⟩
      cases looked
      exact ⟨refusal, refused⟩
    · rintro ⟨refusal, refused⟩
      exact ⟨_, refusal, rfl, refused⟩
  have split := parts_ascii bytes
  rw [shape]
  unfold Punycode.decode Punycode.codes
  rcases asciiPart_cases ((Punycode.parts bytes).1.getD []) with ⟨low, base⟩ | ⟨high, wrong, base⟩
  · rcases asciiPart_cases (Punycode.parts bytes).2 with ⟨lowToo, extended⟩ | ⟨highToo, wrong, extended⟩
    · rw [low, lowToo] at split
      rw [← split]
      simp only [base, extended, bind, Except.bind]
      constructor
      · rintro ⟨refusal, refused, _⟩
        exact ⟨rfl, refusal, refused⟩
      · rintro ⟨_, refusal, refused⟩
        refine ⟨refusal, refused, ?_⟩
        obtain ⟨text, rfl⟩ : ∃ text, refusal = .reason text := by
          cases inserted : Punycode.insertFrom (Punycode.parts bytes).2.length true 0x80 0 72
              ((Punycode.parts bytes).2.map Punycode.upper) ((Punycode.parts bytes).1.getD []) with
          | ok letters => rw [inserted] at refused; cases refused
          | error other =>
            rw [inserted] at refused
            cases refused
            exact insertFrom_error inserted
        exact fun fault same => by cases same
    · rw [low, highToo] at split
      rw [← split]
      simp only [base, extended, bind, Except.bind]
      refine iff_of_false ?_ (fun both => Bool.noConfusion both.1)
      rintro ⟨refusal, refused, faultless⟩
      cases refused
      exact faultless _ rfl
  · rw [high] at split
    rw [← split]
    simp only [base, bind, Except.bind]
    refine iff_of_false ?_ (fun both => Bool.noConfusion both.1)
    rintro ⟨refusal, refused, faultless⟩
    cases refused
    exact faultless _ rfl

end Encoding

open Encoding (meaning? RefusesWhole)

/-! ## How decoding ends -/

/-- What decoding is meant to end with: text, or what is wrong with the encoding or the bytes. -/
def TextOrFault (result : Except Failure String) : Prop :=
  (∃ text, result = .ok text) ∨ ∃ fault, result = .error (.engine (.decoding fault))

/-- What reading a source file is meant to end with: a document, or what is wrong with the settings,
the encoding or the bytes, or with the file. -/
def DocumentOrFault (result : Except Failure Document) : Prop :=
  (∃ d, result = .ok d) ∨ (∃ fault, result = .error (.engine (.configuration fault))) ∨
    (∃ fault, result = .error (.engine (.decoding fault))) ∨ ∃ fault, result = .error (.system fault)

/-- The name of an encoding has no null character in it, and the encoding does not refuse the bytes
as a whole. Where there are no bytes, it is not asked. -/
structure Decodable (encoding : String) (bytes : List Nat) : Prop where
  named : '\x00' ∉ encoding.toList
  unrefused : bytes ≠ [] → ∀ name, meaning? encoding = some name → ¬ RefusesWhole name bytes

theorem refusesWhole_iff {name : String} {bytes : List Nat} {decode : List Nat → Except Encoding.Refusal (List Char)}
    (listed : Encoding.listed? name = some (.whole decode)) :
    RefusesWhole name bytes ↔ ∃ refusal, decode bytes = .error refusal ∧ ∀ fault, refusal ≠ .fault fault := by
  have looked := Encoding.listed?_eq_whole_iff.mp listed
  constructor
  · rintro ⟨decode', refusal, found, refused⟩
    rw [looked, Option.some.injEq] at found
    rw [found]
    exact ⟨refusal, refused⟩
  · rintro ⟨refusal, refused⟩
    exact ⟨decode, refusal, looked, refused⟩

/-- Only an encoding that reads bytes as a whole can refuse them as a whole. -/
theorem not_refusesWhole {name : String} {bytes : List Nat} {codec : Encoding.Codec}
    (listed : Encoding.listed? name = some codec) (stepwise : ∀ decode, codec ≠ .whole decode) :
    ¬ RefusesWhole name bytes := by
  rintro ⟨decode, _, looked, _⟩
  rw [Encoding.listed?_eq_whole_iff.mpr looked, Option.some.injEq] at listed
  exact stepwise decode listed.symm

/-- Decoding ends as it is meant to, or the name of the encoding has a null character in it, or the
encoding refuses the bytes as a whole. -/
theorem decodeText_cases (bytes : List Nat) (encoding what : String) :
    (Decodable encoding bytes ∧ TextOrFault (decodeText bytes encoding what)) ∨
    ('\x00' ∈ encoding.toList ∧ decodeText bytes encoding what = .error (.value "embedded null character")) ∨
    ∃ name message, meaning? encoding = some name ∧ bytes ≠ [] ∧ RefusesWhole name bytes ∧
      decodeText bytes encoding what = .error (.encoding message) := by
  unfold decodeText
  by_cases null : '\x00' ∈ encoding.toList
  · rw [if_pos (List.contains_iff_mem.mpr null)]
    exact .inr (.inl ⟨null, rfl⟩)
  rw [if_neg fun contained => null (List.contains_iff_mem.mp contained), Encoding.find?_eq_bind]
  cases meant : meaning? encoding with
  | none =>
    refine .inl ⟨⟨null, fun _ name known => ?_⟩, .inr ⟨_, rfl⟩⟩
    rw [meant] at known
    cases known
  | some name =>
    have known : (Encoding.listed? name).isSome = true := List.find?_some (p := fun c => (Encoding.listed? c).isSome) meant
    obtain ⟨codec, listed⟩ := Option.isSome_iff_exists.mp known
    rw [Option.bind_some, listed]
    have decodable (unrefused : bytes ≠ [] → ¬ RefusesWhole name bytes) : Decodable encoding bytes := by
      refine ⟨null, fun some_bytes name' known => ?_⟩
      rw [meant, Option.some.injEq] at known
      rw [← known]
      exact unrefused some_bytes
    cases bytes with
    | nil => exact .inl ⟨decodable (absurd rfl), .inl ⟨"", rfl⟩⟩
    | cons b rest =>
      dsimp only [List.isEmpty_cons]
      cases codec with
      | binary =>
        exact .inl ⟨decodable fun _ => not_refusesWhole listed (fun _ same => by cases same), .inr ⟨_, rfl⟩⟩
      | decoder decode =>
        refine .inl ⟨decodable fun _ => not_refusesWhole listed (fun _ same => by cases same), ?_⟩
        dsimp only
        cases decode (b :: rest) with
        | ok cs => exact .inl ⟨_, rfl⟩
        | error fault => exact .inr ⟨_, rfl⟩
      | whole decode =>
        dsimp only
        have whole : RefusesWhole _ (b :: rest) ↔ _ := refusesWhole_iff listed
        cases read : decode (b :: rest) with
        | ok cs =>
          refine .inl ⟨decodable fun _ refuses => ?_, .inl ⟨_, rfl⟩⟩
          obtain ⟨refusal, refused, _⟩ := whole.mp refuses
          rw [read] at refused
          cases refused
        | error refusal =>
          cases refusal with
          | fault e =>
            refine .inl ⟨decodable fun _ refuses => ?_, .inr ⟨_, rfl⟩⟩
            obtain ⟨refusal, refused, faultless⟩ := whole.mp refuses
            rw [read, Except.error.injEq] at refused
            exact faultless e refused.symm
          | reason text =>
            exact .inr (.inr ⟨name, _, rfl, List.cons_ne_nil b rest,
              whole.mpr ⟨_, read, fun _ same => by cases same⟩, rfl⟩)
          | mismatch text =>
            exact .inr (.inr ⟨name, _, rfl, List.cons_ne_nil b rest,
              whole.mpr ⟨_, read, fun _ same => by cases same⟩, rfl⟩)

theorem textOrFault_iff (bytes : List Nat) (encoding what : String) :
    TextOrFault (decodeText bytes encoding what) ↔ Decodable encoding bytes := by
  rcases decodeText_cases bytes encoding what with
    ⟨decodable, ends⟩ | ⟨null, escaped⟩ | ⟨name, message, meant, some_bytes, refuses, escaped⟩
  · exact iff_of_true ends decodable
  · refine iff_of_false ?_ fun decodable => decodable.named null
    rw [escaped]
    rintro (⟨_, same⟩ | ⟨_, same⟩) <;> cases same
  · refine iff_of_false ?_ fun decodable => decodable.unrefused some_bytes name meant refuses
    rw [escaped]
    rintro (⟨_, same⟩ | ⟨_, same⟩) <;> cases same

namespace Engine

/-! ## Reading source files -/

/-- The bytes at the end of a path are read as they are meant to be if the encoding can be used for
them. -/
theorem read_documentOrFault_iff {t : FileTree} {directory : List String} {path encoding : String} {version : Int}
    {p : Path} (resolved : t.resolve directory path = .ok p) :
    DocumentOrFault (Document.read t directory path encoding version) ↔
      ∀ bytes, t.read directory p.text = .ok bytes → Decodable encoding bytes := by
  rw [read_of_resolve resolved]
  cases found : t.read directory p.text with
  | error fault =>
    exact iff_of_true (.inr (.inr (.inr ⟨fault, rfl⟩))) fun bytes same => by cases same
  | ok bytes =>
    dsimp only
    rcases decodeText_cases bytes encoding p.text with
      ⟨decodable, ⟨text, ends⟩ | ⟨fault, ends⟩⟩ | ⟨null, escaped⟩ | ⟨name, message, meant, some_bytes, refuses, escaped⟩
    · rw [ends]
      exact iff_of_true (.inl ⟨_, rfl⟩) fun bytes' same => by cases same; exact decodable
    · rw [ends]
      exact iff_of_true (.inr (.inr (.inl ⟨fault, rfl⟩))) fun bytes' same => by cases same; exact decodable
    · rw [escaped]
      refine iff_of_false ?_ fun decodable => (decodable bytes rfl).named null
      rintro (⟨_, same⟩ | ⟨_, same⟩ | ⟨_, same⟩ | ⟨_, same⟩) <;> cases same
    · rw [escaped]
      refine iff_of_false ?_ fun decodable => (decodable bytes rfl).unrefused some_bytes name meant refuses
      rintro (⟨_, same⟩ | ⟨_, same⟩ | ⟨_, same⟩ | ⟨_, same⟩) <;> cases same

/-- A source file is read in the encoding of the settings that are found for it. -/
theorem load_of_resolve {e : Engine} {path : String} {p : Path} (version : Int)
    (resolved : e.machine.tree.resolve e.machine.directory path = .ok p) :
    (e.load path version).2 = (do
      let s ← (e.settingsFor (Uri.ofPath p.text) path).2
      Document.read e.machine.tree e.machine.directory path s.encoding version) := by
  unfold load
  rw [resolved]
  dsimp only
  rcases e.settingsFor_cases (Uri.ofPath p.text) path with ⟨s, _, found⟩ | ⟨f, _, found⟩ | ⟨s, _, found⟩
  · rw [found]; rfl
  · rw [found]; rfl
  · rw [found]; rfl

/-- Only the configuration can stand against the settings of a file. -/
theorem settingsFor_fault {e : Engine} {path uri : String} {p : Path} {f : Failure}
    (resolved : e.machine.tree.resolve e.machine.directory path = .ok p)
    (failed : (e.settingsFor uri path).2 = .error f) : ∃ fault, f = .engine (.configuration fault) := by
  rcases e.settingsFor_cases uri path with ⟨s, _, found⟩ | ⟨f', wrong, found⟩ | ⟨s, _, found⟩
  · rw [found] at failed
    cases failed
  · rw [found] at failed
    cases failed
    exact settingsNow_error resolved wrong
  · rw [found] at failed
    cases failed

/-- A source file is read as it is meant to be if and only if its path leads somewhere and the
encoding of its settings can be used for the bytes that are there. -/
theorem load_documentOrFault_iff (e : Engine) (path : String) (version : Int) :
    DocumentOrFault (e.load path version).2 ↔
      ∃ p, e.machine.tree.resolve e.machine.directory path = .ok p ∧
        ∀ s bytes, (e.settingsFor (Uri.ofPath p.text) path).2 = .ok s →
          e.machine.tree.read e.machine.directory p.text = .ok bytes → Decodable s.encoding bytes := by
  cases resolved : e.machine.tree.resolve e.machine.directory path with
  | error f =>
    refine iff_of_false ?_ fun ⟨p, found, _⟩ => by cases found
    unfold load
    rw [resolved]
    rcases resolve_error resolved with ⟨m, rfl⟩ | ⟨m, rfl⟩ <;>
      (rintro (⟨_, same⟩ | ⟨_, same⟩ | ⟨_, same⟩ | ⟨_, same⟩) <;> cases same)
  | ok p =>
    rw [load_of_resolve version resolved]
    cases found : (e.settingsFor (Uri.ofPath p.text) path).2 with
    | error f =>
      obtain ⟨fault, rfl⟩ := settingsFor_fault resolved found
      refine iff_of_true (.inr (.inl ⟨fault, rfl⟩)) ⟨p, rfl, fun s bytes same => ?_⟩
      rw [found] at same
      cases same
    | ok s =>
      refine (read_documentOrFault_iff resolved).trans ?_
      constructor
      · intro decodable
        refine ⟨p, rfl, fun s' bytes same bytesRead => ?_⟩
        rw [found, Except.ok.injEq] at same
        rw [← same]
        exact decodable bytes bytesRead
      · rintro ⟨p', same, decodable⟩ bytes bytesRead
        cases same
        exact decodable s bytes found bytesRead

end Engine

/-! ## One way to fail -/

/-- An encoding that refuses all bytes, and letters that spell nothing, let a failure out that is
not one of decoding. -/
example : decodeText [97] "undefined" "x" =
      .error (.encoding "decoding with 'undefined' codec failed (UnicodeError: undefined encoding)") ∧
    decodeText [33] "punycode" "x" =
      .error (.encoding "decoding with 'punycode' codec failed (UnicodeError: Invalid extended code point '!')") := by
  decide +kernel

end Diagnosis
