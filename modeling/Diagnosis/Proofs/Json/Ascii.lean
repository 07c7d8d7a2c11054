import Diagnosis.Proofs.Json.RoundTrip

/-!
# Characters of written values

The text of a value is printable ASCII in lines that end in line feeds: whatever else a string
has in it is escaped.
-/

namespace Diagnosis.Json

open Diagnosis.Number Diagnosis.Text

/-- A printable ASCII character, or the end of a line. -/
def Ascii (c : Char) : Prop := c = '\n' ∨ 32 ≤ c.toNat ∧ c.toNat ≤ 126

instance (c : Char) : Decidable (Ascii c) := inferInstanceAs (Decidable (c = '\n' ∨ 32 ≤ c.toNat ∧ c.toNat ≤ 126))

theorem ascii_of_all {cs : List Char} (all : cs.all (fun c => decide (Ascii c)) = true) : ∀ c ∈ cs, Ascii c :=
  fun c member => of_decide_eq_true (List.all_eq_true.mp all c member)

theorem ascii_of_digit {c : Char} (digit : c.isDigit = true) : Ascii c := by
  have bounds := (isDigit_iff c).mp digit
  exact .inr (by omega)

theorem ascii_hexLast (width n : Nat) : ∀ c ∈ hexLast width n, Ascii c := by
  have digit : ∀ n < 16, Ascii (hexDigit n) := by decide
  induction width generalizing n with
  | zero => simp [hexLast]
  | succ width ih =>
    rw [hexLast, List.forall_mem_append]
    exact ⟨ih _, List.forall_mem_singleton.mpr (digit _ (Nat.mod_lt _ (by omega)))⟩

theorem ascii_of_simpleEscape? {x c : Char} (named : simpleEscape? x = some c) : Ascii x := by
  by_contra other
  have apart (y : Char) (ascii : Ascii y) : x ≠ y := by
    rintro rfl
    exact other ascii
  rw [simpleEscape?] at named
  simp [apart '"' (by decide), apart '\\' (by decide), apart '/' (by decide), apart 'b' (by decide), apart 'f' (by decide),
    apart 'n' (by decide), apart 'r' (by decide), apart 't' (by decide)] at named

theorem ascii_escapeChar (c : Char) : ∀ x ∈ escapeChar c, Ascii x := by
  have unit (n : Nat) : ∀ x ∈ '\\' :: 'u' :: hexLast 4 n, Ascii x :=
    List.forall_mem_cons.mpr ⟨by decide, List.forall_mem_cons.mpr ⟨by decide, ascii_hexLast 4 n⟩⟩
  rcases escapeChar_cases c with ⟨x, escape, named⟩ | ⟨escape, _, _, printable⟩ | ⟨_, escape⟩ | ⟨_, escape⟩
  · rw [escape]
    exact List.forall_mem_cons.mpr ⟨by decide, List.forall_mem_singleton.mpr (ascii_of_simpleEscape? named)⟩
  · rw [escape]
    exact List.forall_mem_singleton.mpr (.inr printable)
  · rw [escape]
    exact unit _
  · rw [escape, ← List.cons_append, ← List.cons_append, List.forall_mem_append]
    exact ⟨unit _, unit _⟩

theorem ascii_writeText (s : String) : ∀ c ∈ writeText s, Ascii c := by
  rw [writeText, List.forall_mem_append, List.forall_mem_cons]
  refine ⟨⟨by decide, fun x member => ?_⟩, List.forall_mem_singleton.mpr (by decide)⟩
  obtain ⟨c, _, among⟩ := List.mem_flatMap.mp member
  exact ascii_escapeChar c x among

theorem ascii_decimalInt (n : Int) : ∀ c ∈ (decimalInt n).toList, Ascii c := by
  cases n with
  | ofNat m => exact fun c member => ascii_of_digit (decimal_digits m c member)
  | negSucc m =>
    rw [decimalInt, String.toList_append, List.forall_mem_append]
    exact ⟨ascii_of_all (by decide), fun c member => ascii_of_digit (decimal_digits (m + 1) c member)⟩

theorem Spelling.WellFormed.ascii {s : Spelling} (wellFormed : s.WellFormed) : ∀ c ∈ s.text, Ascii c := by
  have digits {ds : List Char} (digits : Digits ds) : ∀ c ∈ ds, Ascii c := fun c member => ascii_of_digit (digits c member)
  rw [Spelling.text, List.forall_mem_append, List.forall_mem_append]
  refine ⟨digits wellFormed.whole, ?_, ?_⟩
  · split
    · simp
    · exact List.forall_mem_cons.mpr ⟨by decide, digits wellFormed.fraction⟩
  · cases given : s.exponent with
    | none => simp [Spelling.exponentText]
    | some exponent =>
      obtain ⟨down, ds⟩ := exponent
      refine List.forall_mem_cons.mpr ⟨by decide, List.forall_mem_cons.mpr ⟨?_, digits (wellFormed.exponent down ds given).2⟩⟩
      cases down <;> decide

theorem ascii_realText (x : Binary64) : ∀ c ∈ (x.text "Infinity" "NaN").toList, Ascii c := by
  have sign : ∀ c ∈ (if x.isNegative then "-" else "" : String).toList, Ascii c := by
    cases x.isNegative <;> exact ascii_of_all (by decide)
  unfold Binary64.text
  dsimp only
  split
  · rename_i finite
    rw [String.toList_append, String.toList_ofList, List.forall_mem_append]
    refine ⟨sign, ?_⟩
    rcases Nat.eq_zero_or_pos x.magnitude with nothing | positive
    · rw [nothing]
      exact ascii_of_all (by decide)
    · obtain ⟨s, text, _, means⟩ := finiteText_means positive finite
      rw [text]
      exact means.wellFormed.ascii
  · split
    · rw [String.toList_append, List.forall_mem_append]
      exact ⟨sign, ascii_of_all (by decide)⟩
    · exact ascii_of_all (by decide)

theorem ascii_joinWith {separator : List Char} (between : ∀ c ∈ separator, Ascii c) {members : List (List Char)}
    (inner : ∀ m ∈ members, ∀ c ∈ m, Ascii c) : ∀ c ∈ joinWith separator members, Ascii c := by
  induction members with
  | nil => simp [joinWith]
  | cons first rest ih =>
    obtain ⟨here, later⟩ := List.forall_mem_cons.mp inner
    cases rest with
    | nil => exact here
    | cons second more =>
      rw [joinWith_cons_cons, List.forall_mem_append, List.forall_mem_append]
      exact ⟨⟨here, between⟩, ih later⟩

theorem ascii_enclose (layout : Layout) (depth : Nat) {left right : Char} (opens : Ascii left) (closes : Ascii right)
    {members : List (List Char)} (inner : ∀ m ∈ members, ∀ c ∈ m, Ascii c) :
    ∀ c ∈ layout.enclose depth left right members, Ascii c := by
  have margin (n : Nat) : ∀ c ∈ '\n' :: List.replicate n ' ', Ascii c := by
    refine List.forall_mem_cons.mpr ⟨by decide, fun c member => ?_⟩
    rw [List.eq_of_mem_replicate member]
    decide
  unfold Layout.enclose
  split
  · exact List.forall_mem_cons.mpr ⟨opens, List.forall_mem_singleton.mpr closes⟩
  · cases layout with
    | line =>
      refine List.forall_mem_append.mpr ⟨List.forall_mem_cons.mpr ⟨opens, ascii_joinWith (ascii_of_all (by decide)) inner⟩, ?_⟩
      exact List.forall_mem_singleton.mpr closes
    | indented =>
      dsimp only
      rw [List.forall_mem_append, List.forall_mem_append, List.forall_mem_append, List.forall_mem_cons]
      exact ⟨⟨⟨⟨opens, margin _⟩, ascii_joinWith (List.forall_mem_cons.mpr ⟨by decide, margin _⟩) inner⟩, margin _⟩,
        List.forall_mem_singleton.mpr closes⟩

mutual
/-- The text of a value is printable ASCII. -/
theorem ascii_writeValue (layout : Layout) : ∀ (v : Value) (depth : Nat), ∀ c ∈ writeValue layout depth v, Ascii c
  | .null, _ => by
    rw [writeValue]
    exact ascii_of_all (by decide)
  | .bool b, _ => by
    rw [writeValue]
    cases b <;> exact ascii_of_all (by decide)
  | .int n, _ => ascii_decimalInt n
  | .real x, _ => ascii_realText x
  | .text s, _ => ascii_writeText s
  | .list items, depth => ascii_enclose layout depth (by decide) (by decide) (ascii_writeItems layout items (depth + 1))
  | .object fields, depth => ascii_enclose layout depth (by decide) (by decide) (ascii_writeFields layout fields (depth + 1))
termination_by structural v => v
theorem ascii_writeItems (layout : Layout) : ∀ (vs : List Value) (depth : Nat), ∀ m ∈ writeItems layout depth vs,
    ∀ c ∈ m, Ascii c
  | [], _ => by simp [writeItems]
  | v :: rest, depth => List.forall_mem_cons.mpr ⟨ascii_writeValue layout v depth, ascii_writeItems layout rest depth⟩
termination_by structural vs => vs
theorem ascii_writeFields (layout : Layout) : ∀ (es : List (String × Value)) (depth : Nat),
    ∀ m ∈ writeFields layout depth es, ∀ c ∈ m, Ascii c
  | [], _ => by simp [writeFields]
  | e :: rest, depth => List.forall_mem_cons.mpr ⟨ascii_writeField layout e depth, ascii_writeFields layout rest depth⟩
termination_by structural es => es
theorem ascii_writeField (layout : Layout) : ∀ (e : String × Value) (depth : Nat), ∀ c ∈ writeField layout depth e, Ascii c
  | (key, v), depth => by
    rw [writeField, List.forall_mem_append, List.forall_mem_cons, List.forall_mem_cons]
    exact ⟨ascii_writeText key, by decide, by decide, ascii_writeValue layout v depth⟩
termination_by structural e => e
end

end Diagnosis.Json
