import Diagnosis.Proofs.Result
import Diagnosis.Proofs.Settings.Layer

/-!
# Settings by their paths

Every setting has a dotted key. Complete fields give a snapshot if and only if they have
what each setting has to be, and then the snapshot has exactly that.
-/

namespace Diagnosis.Settings

open Diagnosis.Json

/-! ## The settings by their paths -/

/-- Every setting by its dotted key, and what it has to be. -/
def slots : List (String × Expected) := [
  ("compileCommand", .string), ("compileOptions", .strings), ("includeOptionPrefix", .string),
  ("includePath.absolute", .strings), ("includePath.relative", .strings), ("diagDelimiter", .string),
  ("parse.encoding", .string), ("parse.diagInfoPattern", .string), ("parse.index.file_name", .integer),
  ("parse.index.line_pos", .integer), ("parse.index.char_pos", .integer), ("parse.index.severity", .integer),
  ("parse.severityIdentifier.error", .string), ("parse.severityIdentifier.warning", .string),
  ("parse.severityIdentifier.information", .string), ("parse.severityIdentifier.hint", .string),
  ("maxNumberOfProblems", .integer)]

/-- The dotted keys of the objects that settings are in. -/
def groups : List String := ["includePath", "parse", "parse.index", "parse.severityIdentifier"]

/-- Whether a value is what a setting has to be. -/
def accepts : Expected → Value → Bool
  | .string, v => v.text?.isSome
  | .integer, v => v.int?.isSome
  | .strings, v => (texts? v).isSome

/-- The values of a snapshot by the dotted keys of the settings. -/
def values (s : Settings) : List (String × Value) := [
  ("compileCommand", .text s.command), ("compileOptions", .list (s.options.map .text)),
  ("includeOptionPrefix", .text s.includeFlag), ("includePath.absolute", .list (s.absoluteIncludes.map .text)),
  ("includePath.relative", .list (s.relativeIncludes.map .text)), ("diagDelimiter", .text s.delimiter),
  ("parse.encoding", .text s.encoding), ("parse.diagInfoPattern", .text s.record),
  ("parse.index.file_name", .int s.indices.file), ("parse.index.line_pos", .int s.indices.line),
  ("parse.index.char_pos", .int s.indices.column), ("parse.index.severity", .int s.indices.severity),
  ("parse.severityIdentifier.error", .text s.identifiers.error),
  ("parse.severityIdentifier.warning", .text s.identifiers.warning),
  ("parse.severityIdentifier.information", .text s.identifiers.information),
  ("parse.severityIdentifier.hint", .text s.identifiers.hint), ("maxNumberOfProblems", .int s.limit)]

/-- What a layer has at each of the groups, if it has anything there, is an object. -/
def Grouped (layer : Fields) : Prop := ∀ g ∈ groups, (lookup? layer g).all (fun v => v.fields?.isSome) = true

instance (layer : Fields) : Decidable (Grouped layer) :=
  inferInstanceAs (Decidable (∀ g ∈ groups, (lookup? layer g).all (fun v => v.fields?.isSome) = true))

/-- Two layers have the same for every setting. -/
def SameSettings (layer layer' : Fields) : Prop := ∀ slot ∈ slots, lookup? layer' slot.1 = lookup? layer slot.1

/-- A path is neither that of a setting, nor on the way to one, nor beyond one. -/
def Elsewhere (path : List String) : Prop := ∀ slot ∈ slots, ¬ path <+: keyParts slot.1 ∧ ¬ keyParts slot.1 <+: path

/-! ## Checking -/

theorem texts?_eq_some_iff {v : Value} {ss : List String} : texts? v = some ss ↔ v = .list (ss.map .text) := by
  have members (items : List Value) (ss : List String) : items.mapM Value.text? = some ss ↔ items = ss.map .text := by
    induction items generalizing ss with
    | nil => cases ss <;> simp
    | cons item rest ih =>
      rw [List.mapM_cons]
      cases item with
      | text s =>
        simp only [Value.text?, Option.bind_eq_bind, Option.bind_some, Option.bind_eq_some_iff, Option.pure_def,
          Option.some.injEq]
        constructor
        · rintro ⟨found, got, rfl⟩
          rw [(ih found).mp got, List.map_cons]
        · intro whole
          cases ss with
          | nil => cases whole
          | cons first more =>
            rw [List.map_cons, List.cons.injEq, Value.text.injEq] at whole
            obtain ⟨rfl, tail⟩ := whole
            exact ⟨more, (ih more).mpr tail, rfl⟩
      | _ => cases ss <;> simp [Value.text?]
  cases v with
  | list items => simp [texts?, Value.list?, members]
  | _ => simp [texts?, Value.list?]

theorem requireText_eq_ok_iff {fields : Fields} {key s : String} :
    requireText fields key = .ok s ↔ lookup? fields key = some (.text s) := by
  unfold requireText require
  cases lookup? fields key with
  | none => simp [bind, Except.bind]
  | some v => cases v <;> simp [bind, Except.bind]

theorem requireInt_eq_ok_iff {fields : Fields} {key : String} {n : Int} :
    requireInt fields key = .ok n ↔ lookup? fields key = some (.int n) := by
  unfold requireInt require
  cases lookup? fields key with
  | none => simp [bind, Except.bind]
  | some v => cases v <;> simp [bind, Except.bind]

theorem requireTexts_eq_ok_iff {fields : Fields} {key : String} {ss : List String} :
    requireTexts fields key = .ok ss ↔ lookup? fields key = some (.list (ss.map .text)) := by
  unfold requireTexts require
  cases lookup? fields key with
  | none => simp [bind, Except.bind]
  | some v =>
    rw [Option.some.injEq, ← texts?_eq_some_iff]
    simp only [bind, Except.bind]
    cases texts? v with
    | none => simp
    | some found => simp

/-- Complete fields give the snapshot with exactly their values. -/
theorem ofComplete_eq_ok_iff {fields : Fields} {s : Settings} :
    ofComplete fields = .ok s ↔ ∀ e ∈ s.values, lookup? fields e.1 = some e.2 := by
  simp only [ofComplete, bind_eq_ok_iff, requireText_eq_ok_iff, requireInt_eq_ok_iff, requireTexts_eq_ok_iff, values,
    List.forall_mem_cons, List.not_mem_nil, false_implies, implies_true, and_true]
  constructor
  · rintro ⟨_, h₁, _, h₂, _, h₃, _, h₄, _, h₅, _, h₆, _, h₇, _, h₈, _, h₉, _, h₁₀, _, h₁₁, _, h₁₂, _, h₁₃, _, h₁₄, _, h₁₅, _,
      h₁₆, _, h₁₇, made⟩
    cases made
    exact ⟨h₁, h₂, h₃, h₄, h₅, h₆, h₇, h₈, h₉, h₁₀, h₁₁, h₁₂, h₁₃, h₁₄, h₁₅, h₁₆, h₁₇⟩
  · rintro ⟨h₁, h₂, h₃, h₄, h₅, h₆, h₇, h₈, h₉, h₁₀, h₁₁, h₁₂, h₁₃, h₁₄, h₁₅, h₁₆, h₁₇⟩
    exact ⟨_, h₁, _, h₂, _, h₃, _, h₄, _, h₅, _, h₆, _, h₇, _, h₈, _, h₉, _, h₁₀, _, h₁₁, _, h₁₂, _, h₁₃, _, h₁₄, _, h₁₅, _,
      h₁₆, _, h₁₇, rfl⟩

theorem accepts_string {v : Value} : accepts .string v = true ↔ ∃ s, v = .text s := by
  cases v <;> simp [accepts, Value.text?]

theorem accepts_integer {v : Value} : accepts .integer v = true ↔ ∃ n, v = .int n := by
  cases v <;> simp [accepts, Value.int?]

theorem accepts_strings {v : Value} : accepts .strings v = true ↔ ∃ ss : List String, v = .list (ss.map .text) := by
  simp only [accepts, Option.isSome_iff_exists, texts?_eq_some_iff]

/-- Fields give a snapshot if and only if they have what each setting has to be. -/
theorem exists_ofComplete_iff {fields : Fields} :
    (∃ s, ofComplete fields = .ok s) ↔ ∀ slot ∈ slots, ∃ v, lookup? fields slot.1 = some v ∧ accepts slot.2 v = true := by
  have given {key : String} {α : Type} (make : α → Value) :
      (∃ v, lookup? fields key = some v ∧ ∃ a, v = make a) ↔ ∃ a, lookup? fields key = some (make a) :=
    ⟨fun ⟨_, found, a, same⟩ => ⟨a, same ▸ found⟩, fun ⟨a, found⟩ => ⟨_, found, a, rfl⟩⟩
  simp only [ofComplete_eq_ok_iff, values, slots, List.forall_mem_cons, List.not_mem_nil, false_implies, implies_true,
    and_true, accepts_string, accepts_integer, accepts_strings, given]
  constructor
  · rintro ⟨s, h₁, h₂, h₃, h₄, h₅, h₆, h₇, h₈, h₉, h₁₀, h₁₁, h₁₂, h₁₃, h₁₄, h₁₅, h₁₆, h₁₇⟩
    exact ⟨⟨_, h₁⟩, ⟨_, h₂⟩, ⟨_, h₃⟩, ⟨_, h₄⟩, ⟨_, h₅⟩, ⟨_, h₆⟩, ⟨_, h₇⟩, ⟨_, h₈⟩, ⟨_, h₉⟩, ⟨_, h₁₀⟩, ⟨_, h₁₁⟩, ⟨_, h₁₂⟩,
      ⟨_, h₁₃⟩, ⟨_, h₁₄⟩, ⟨_, h₁₅⟩, ⟨_, h₁₆⟩, ⟨_, h₁₇⟩⟩
  · rintro ⟨⟨command, h₁⟩, ⟨options, h₂⟩, ⟨includeFlag, h₃⟩, ⟨absoluteIncludes, h₄⟩, ⟨relativeIncludes, h₅⟩,
      ⟨delimiter, h₆⟩, ⟨encoding, h₇⟩, ⟨record, h₈⟩, ⟨file, h₉⟩, ⟨line, h₁₀⟩, ⟨column, h₁₁⟩, ⟨severity, h₁₂⟩, ⟨error, h₁₃⟩,
      ⟨warning, h₁₄⟩, ⟨information, h₁₅⟩, ⟨hint, h₁₆⟩, ⟨limit, h₁₇⟩⟩
    exact ⟨{ command, options, includeFlag, absoluteIncludes, relativeIncludes, delimiter, encoding, record, limit
             indices := { file, line, column, severity }
             identifiers := { error, warning, information, hint } },
      h₁, h₂, h₃, h₄, h₅, h₆, h₇, h₈, h₉, h₁₀, h₁₁, h₁₂, h₁₃, h₁₄, h₁₅, h₁₆, h₁₇⟩

/-- Nothing of fields matters but what they have for the settings. -/
theorem ofComplete_congr {fields fields' : Fields} (same : SameSettings fields fields') :
    ofComplete fields' = ofComplete fields := by
  simp only [SameSettings, slots, List.forall_mem_cons, List.not_mem_nil, false_implies, implies_true, and_true] at same
  obtain ⟨h₁, h₂, h₃, h₄, h₅, h₆, h₇, h₈, h₉, h₁₀, h₁₁, h₁₂, h₁₃, h₁₄, h₁₅, h₁₆, h₁₇⟩ := same
  simp only [ofComplete, requireText, requireInt, requireTexts, require, h₁, h₂, h₃, h₄, h₅, h₆, h₇, h₈, h₉, h₁₀, h₁₁,
    h₁₂, h₁₃, h₁₄, h₁₅, h₁₆, h₁₇]

end Diagnosis.Settings
