import Diagnosis.Console
import Diagnosis.Proofs.Json.RoundTrip
import Diagnosis.Proofs.Report
import Diagnosis.Proofs.Result

/-!
# Sets of diagnostics are read back

The document that is printed for a set of diagnostics gives its address and all of its diagnostics
back, so no two sets are printed alike. A set has a document unless a number in it has too many
digits to be written, and what compilers say does not lead to such numbers.
-/

namespace Diagnosis

open Diagnosis.Json (Fields Proper Value)
open Diagnosis.Text (digitLimit isShort isShort_iff isShort_of_readInt? readInt?)

/-! ## Reading -/

/-- The value of a key, if the value is an object that has the key. -/
def Json.Value.field? (v : Value) (key : String) : Option Value := v.fields?.bind (Fields.get? key)

@[simp] theorem Json.Value.field?_object (fields : Fields) (key : String) :
    (Value.object fields).field? key = Fields.get? key fields := rfl

/-- The position that a JSON value tells. -/
def Position.ofJson? (v : Value) : Option Position := do
  return ⟨← (← v.field? "line").int?, ← (← v.field? "character").int?⟩

/-- The range that a JSON value tells. -/
def Range.ofJson? (v : Value) : Option Range := do
  return ⟨← Position.ofJson? (← v.field? "start"), ← Position.ofJson? (← v.field? "end")⟩

/-- The diagnostic that a JSON value tells. -/
def Diagnostic.ofJson? (v : Value) : Option Diagnostic := do
  let data ← v.field? "data"
  return {
    range := ← Range.ofJson? (← v.field? "range")
    severity := ← Severity.ofNumber? (← (← v.field? "severity").int?)
    message := ← (← v.field? "message").text?
    source := ← (← v.field? "source").text?
    column := ← (← data.field? "column").int?
    file := ← (← data.field? "fileName").text? }

/-- The address and the diagnostics that a JSON value tells. -/
def Console.setOf? (v : Value) : Option (String × List Diagnostic) := do
  return (← (← v.field? "uri").text?, ← (← (← v.field? "diagnostics").list?).mapM Diagnostic.ofJson?)

@[simp] theorem Position.ofJson?_toJson (p : Position) : ofJson? p.toJson = some p := rfl

@[simp] theorem Range.ofJson?_toJson (r : Range) : ofJson? r.toJson = some r := rfl

@[simp] theorem Severity.ofNumber?_number (s : Severity) : ofNumber? s.number = some s := by cases s <;> rfl

@[simp] theorem Diagnostic.ofJson?_toJson (d : Diagnostic) : ofJson? d.toJson = some d := by
  simp [ofJson?, toJson, Fields.get?, Value.int?, Value.text?]

@[simp] theorem Diagnostic.mapM_ofJson?_toJson (ds : List Diagnostic) : ds.mapM (ofJson? ∘ toJson) = some ds := by
  induction ds with
  | nil => rfl
  | cons d rest ih => simp [ih]

namespace Console

theorem setOf?_documentOf (uri : String) (ds : List Diagnostic) : setOf? (documentOf uri ds) = some (uri, ds) := by
  simp [setOf?, documentOf, Fields.get?, Value.text?, Value.list?]

end Console

/-! ## Writing -/

/-- All numbers of a diagnostic can be written. -/
def Diagnostic.Short (d : Diagnostic) : Prop := ∀ n ∈ d.numbers, n.natAbs < 10 ^ digitLimit

theorem Diagnostic.short_iff (d : Diagnostic) :
    d.Short ↔ (d.range.start.line.natAbs < 10 ^ digitLimit ∧ d.range.start.character.natAbs < 10 ^ digitLimit) ∧
      (d.range.stop.line.natAbs < 10 ^ digitLimit ∧ d.range.stop.character.natAbs < 10 ^ digitLimit) ∧
      d.column.natAbs < 10 ^ digitLimit := by
  simp only [Short, numbers, List.forall_mem_cons, List.not_mem_nil, false_implies, implies_true, and_true, and_assoc]

theorem Position.proper_toJson {p : Position} (line : p.line.natAbs < 10 ^ digitLimit)
    (character : p.character.natAbs < 10 ^ digitLimit) : Proper p.toJson :=
  .object (by simp [Fields.keys]) (by simpa using ⟨.int line, .int character⟩)

theorem Range.proper_toJson {r : Range} (start : Proper r.start.toJson) (stop : Proper r.stop.toJson) : Proper r.toJson :=
  .object (by simp [Fields.keys]) (by simpa using ⟨start, stop⟩)

theorem Diagnostic.proper_toJson {d : Diagnostic} (short : d.Short) : Proper d.toJson := by
  obtain ⟨⟨line, character⟩, ⟨line', character'⟩, column⟩ := d.short_iff.mp short
  have range := Range.proper_toJson (Position.proper_toJson line character) (Position.proper_toJson line' character')
  have few : ∀ s : Severity, (s.number : Int).natAbs < 10 ^ digitLimit := fun s =>
    Nat.lt_of_lt_of_le (by cases s <;> decide : _ < 10 ^ 1) (Nat.pow_le_pow_right (by decide) (by decide))
  have data : Proper (.object [("column", .int d.column), ("fileName", .text d.file)]) :=
    .object (by simp [Fields.keys]) (by simpa using ⟨.int column, .text d.file⟩)
  refine .object (by simp [Fields.keys]) ?_
  simpa using ⟨range, .int (few _), .text d.message, .text d.source, data⟩

namespace Console

theorem proper_documentOf {uri : String} {ds : List Diagnostic} (short : ∀ d ∈ ds, d.Short) :
    Proper (documentOf uri ds) := by
  have inner : Proper (.list (ds.map Diagnostic.toJson)) := by
    refine .list fun v member => ?_
    obtain ⟨d, among, rfl⟩ := List.mem_map.mp member
    exact Diagnostic.proper_toJson (short d among)
  exact .object (by simp [Fields.keys]) (by simpa using ⟨.text uri, inner⟩)

/-- A set has a document just if all of its numbers can be written. -/
theorem jsonOf_eq_ok_iff (uri : String) (ds : List Diagnostic) (text : String) :
    jsonOf uri ds = .ok text ↔ (∀ d ∈ ds, d.Short) ∧ text = Json.render (documentOf uri ds) := by
  have checked : ds.all (·.numbers.all isShort) = true ↔ ∀ d ∈ ds, d.Short := by
    simp only [List.all_eq_true, Diagnostic.Short, isShort_iff]
  unfold jsonOf
  split
  · next short =>
    rw [Except.ok.injEq, eq_comm]
    exact ⟨fun same => ⟨checked.mp short, same⟩, And.right⟩
  · next long =>
    refine ⟨nofun, fun ⟨short, _⟩ => absurd (checked.mpr short) long⟩

theorem printed_publish (uri : String) (ds : List Diagnostic) :
    printed .json (.publish uri ds) = (jsonOf uri ds).toOption.toList.map .json := by
  simp only [printed, printedFor]
  cases jsonOf uri ds <;> rfl

/-- The document of a set is read as the address and the diagnostics of the set. -/
theorem setOf?_of_jsonOf {uri : String} {ds : List Diagnostic} {text : String} (written : jsonOf uri ds = .ok text) :
    ∃ v, Json.read text = .ok v ∧ setOf? v = some (uri, ds) := by
  obtain ⟨short, rfl⟩ := (jsonOf_eq_ok_iff uri ds text).mp written
  exact ⟨documentOf uri ds, Json.read_render (proper_documentOf short), setOf?_documentOf uri ds⟩

/-- No two sets have the same document. -/
theorem jsonOf_injective {uri uri' : String} {ds ds' : List Diagnostic} {text : String}
    (written : jsonOf uri ds = .ok text) (written' : jsonOf uri' ds' = .ok text) : uri' = uri ∧ ds' = ds := by
  obtain ⟨v, read, set⟩ := setOf?_of_jsonOf written
  obtain ⟨v', read', set'⟩ := setOf?_of_jsonOf written'
  rw [read] at read'
  cases read'
  rw [set] at set'
  cases set'
  exact ⟨rfl, rfl⟩

end Console

/-! ## The numbers of what compilers say -/

theorem Rules.natAbs_columnOf_lt (rules : Rules) (block : String) : (rules.columnOf block).natAbs < 10 ^ digitLimit := by
  unfold columnOf
  cases read : (rules.captured block rules.indices.column).bind fun s => readInt? s.toList with
  | none => exact Nat.pow_pos (by decide)
  | some n =>
    obtain ⟨s, _, spelled⟩ := Option.bind_eq_some_iff.mp read
    exact (isShort_iff n).mp (isShort_of_readInt? spelled)

theorem Rules.natAbs_of_named? {rules : Rules} {block file : String} {line : Int}
    (named : rules.named? block = some (file, line)) : line.natAbs < 10 ^ digitLimit := by
  simp only [named?, Option.bind_eq_bind, Option.bind_eq_some_iff, Option.pure_def, Option.some.injEq] at named
  obtain ⟨_, _, s, _, n, spelled, same⟩ := named
  cases same
  exact (isShort_iff line).mp (isShort_of_readInt? spelled)

/-- A report on a document whose lines are not too long has only numbers that can be written. -/
theorem Accounts.short {rules : Rules} {settings : Settings} {name : String} {lines : List (List Char)}
    {bs : List String} {r : Report} (accounts : Accounts rules settings name lines bs r)
    (narrow : ∀ l ∈ lines, l.length < 10 ^ digitLimit) : ∀ d ∈ r.diagnostics, d.Short := by
  intro d member
  obtain ⟨line, inside, named, shape⟩ := accounts.placed d member
  have counted := Rules.natAbs_of_named? named
  have width := narrow lines[line] (List.getElem_mem inside)
  have column := rules.natAbs_columnOf_lt d.message
  rw [shape, Diagnostic.short_iff]
  simp only [Rules.diagnosticOf, List.getElem?_eq_getElem inside, Option.getD_some, Int.natAbs_natCast]
  refine ⟨⟨by omega, Nat.pow_pos (by decide)⟩, ⟨by omega, width⟩, column⟩

theorem report_short {settings : Settings} {output name text : String} {r : Report}
    (told : report settings output name text = .ok r)
    (narrow : ∀ l ∈ (LineTable.ofText text).lines, l.length < 10 ^ digitLimit) : ∀ d ∈ r.diagnostics, d.Short := by
  cases checked : Rules.of settings with
  | error f =>
    simp only [report, checked, Bind.bind, Except.bind] at told
    cases told
  | ok rules =>
    rw [report_of_rules checked] at told
    cases told
    exact (accounts_ofPlaced rules settings name (.ofText text) _).short narrow

namespace Console

/-- Where a set of diagnostics is printed as JSON, it is one document, from which the address and the
diagnostics are read back in order, so that no other set is printed alike. It is printed just if
each of its numbers has few enough digits to be written, and so is all that a report tells of a document whose
lines are not too long to have their lengths written. -/
theorem set_round_trip (uri : String) (ds : List Diagnostic) :
    (∀ p ∈ printed .json (.publish uri ds),
      printed .json (.publish uri ds) = [p] ∧
      (∃ text v, p = .json text ∧ Json.read text = .ok v ∧ setOf? v = some (uri, ds)) ∧
      ∀ uri' ds', p ∈ printed .json (.publish uri' ds') → uri' = uri ∧ ds' = ds) ∧
    (printed .json (.publish uri ds) ≠ [] ↔ ∀ d ∈ ds, ∀ n ∈ d.numbers, n.natAbs < 10 ^ digitLimit) ∧
    ∀ settings output name text r, report settings output name text = .ok r →
      (∀ l ∈ (LineTable.ofText text).lines, l.length < 10 ^ digitLimit) → ds ⊆ r.diagnostics →
      printed .json (.publish uri ds) ≠ [] := by
  have printed_iff (uri : String) (ds : List Diagnostic) (p : Printed) :
      p ∈ printed .json (.publish uri ds) ↔ ∃ text, jsonOf uri ds = .ok text ∧ p = .json text := by
    rw [printed_publish]
    cases jsonOf uri ds <;> simp [Except.toOption]
  have some_iff : printed .json (.publish uri ds) ≠ [] ↔ ∀ d ∈ ds, d.Short := by
    constructor
    · intro some_printed
      obtain ⟨p, among⟩ := List.exists_mem_of_ne_nil _ some_printed
      obtain ⟨text, written, _⟩ := (printed_iff uri ds p).mp among
      exact ((jsonOf_eq_ok_iff uri ds text).mp written).1
    · intro short
      exact List.ne_nil_of_mem ((printed_iff uri ds _).mpr ⟨_, (jsonOf_eq_ok_iff uri ds _).mpr ⟨short, rfl⟩, rfl⟩)
  refine ⟨fun p among => ?_, some_iff, fun settings output name text r told narrow within => ?_⟩
  · obtain ⟨text, written, rfl⟩ := (printed_iff uri ds p).mp among
    obtain ⟨v, read, set⟩ := setOf?_of_jsonOf written
    refine ⟨by rw [printed_publish, written]; rfl, ⟨text, v, rfl, read, set⟩, fun uri' ds' among' => ?_⟩
    obtain ⟨text', written', same⟩ := (printed_iff uri' ds' _).mp among'
    cases same
    exact jsonOf_injective written written'
  · exact some_iff.mpr fun d member => report_short told narrow d (within member)

/-- A diagnostic with quotation marks, a backslash, a tab, and characters beyond ASCII and beyond 16
bits. -/
def escapedSet : List Diagnostic :=
  [⟨⟨⟨1, 0⟩, ⟨1, 4⟩⟩, .warning, "a\"b(2): \\é😀\n", "cc\t-c", -7, "a\"b"⟩]

/-- The document of the diagnostic. -/
def escapedText : String :=
  "\x7b\"uri\": \"file:///w/a%22b\", \"diagnostics\": [\x7b" ++
  "\"range\": \x7b\"start\": \x7b\"line\": 1, \"character\": 0\x7d, \"end\": \x7b\"line\": 1, \"character\": 4\x7d\x7d, " ++
  "\"severity\": 2, \"message\": \"a\\\"b(2): \\\\\\u00e9\\ud83d\\ude00\\n\", \"source\": \"cc\\t-c\", " ++
  "\"data\": \x7b\"column\": -7, \"fileName\": \"a\\\"b\"\x7d\x7d]\x7d"

/-- The diagnostic is read back from its document, and what a report tells is printed. -/
theorem set_round_trip_escaped :
    printed .json (.publish "file:///w/a%22b" escapedSet) = [.json escapedText] ∧
    (∃ v, Json.read escapedText = .ok v ∧ setOf? v = some ("file:///w/a%22b", escapedSet)) ∧
    ∃ r, report sparseSettings sparseOutput "a.c" "one\r\ntwo" = .ok r ∧ r.diagnostics ≠ [] ∧
      printed .json (.publish "file:///w/a.c" r.diagnostics) ≠ [] := by
  have shown : printed .json (.publish "file:///w/a%22b" escapedSet) = [.json escapedText] := by decide +kernel
  obtain ⟨back, _, _⟩ := set_round_trip "file:///w/a%22b" escapedSet
  obtain ⟨_, ⟨text, v, same, read, set⟩, _⟩ := back (.json escapedText) (shown ▸ List.mem_singleton_self _)
  cases same
  have checked : (report sparseSettings sparseOutput "a.c" "one\r\ntwo").toOption.any
      (fun r => ! r.diagnostics.isEmpty) = true := by decide +kernel
  obtain ⟨r, told, some_told⟩ := exists_ok_of_any checked
  have narrow : ∀ l ∈ (LineTable.ofText "one\r\ntwo").lines, l.length < 10 ^ 1 := by decide
  have power : 10 ^ 1 ≤ 10 ^ digitLimit := Nat.pow_le_pow_right (by decide) (by decide)
  have printed := (set_round_trip "file:///w/a.c" r.diagnostics).2.2 _ _ _ _ r told
    (fun l member => (narrow l member).trans_le power) fun _ => id
  exact ⟨shown, ⟨v, read, set⟩, r, told, by simpa using some_told, printed⟩

end Console

end Diagnosis
