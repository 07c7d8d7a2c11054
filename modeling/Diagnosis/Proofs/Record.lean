import Diagnosis.Proofs.Pattern.Refusal
import Diagnosis.Proofs.Result
import Diagnosis.Record

/-!
# Which settings give rules

Settings give rules if both of their patterns can be read and the record pattern has a group for
every index. Where they give none, a setting is at fault, unless a pattern has too much of
something: such an error is passed on as it is.
-/

namespace Diagnosis

/-- A text that is read for some settings is refused, the first of them. -/
inductive Settings.Refuses (s : Settings) : List Char → Pattern.Error → Prop where
  | delimiter {e : Pattern.Error} (refused : delimiterPattern s.delimiter = .error e) :
    Refuses s (lookaheadOf s.delimiter.toList) e
  | record {p : Pattern} {e : Pattern.Error} (read : delimiterPattern s.delimiter = .ok p)
    (refused : Pattern.ofChars s.record.toList = .error e) : Refuses s s.record.toList e

namespace Rules

open Pattern (Excess Accounted)

variable {s : Settings} {text : List Char} {e : Pattern.Error}

/-- The error for a text that is refused comes from reading that text. -/
theorem ofChars_of_refuses (refuses : s.Refuses text e) : Pattern.ofChars text = .error e := by
  cases refuses with
  | delimiter refused => exact refused
  | record _ refused => exact refused

/-- A refused text makes the failure that its error means. -/
theorem of_refuses (refuses : s.Refuses text e) :
    ∃ fault pattern, Rules.of s = .error (patternFailure fault text pattern e) := by
  cases refuses with
  | delimiter refused => exact ⟨.delimiter, s.delimiter, by rw [Rules.of, refused]; rfl⟩
  | record read refused => exact ⟨.record, s.record, by rw [Rules.of, read, refused]; rfl⟩

/-- Patterns that can be read are checked against the indices. -/
theorem of_patterns {p q : Pattern} (delimiter : delimiterPattern s.delimiter = .ok p)
    (record : Pattern.ofChars s.record.toList = .ok q) :
    Rules.of s = match s.indices.beyond? q.groups with
      | some (name, position) => .error (.engine (.configuration (.index name position q.groups)))
      | none => .ok ⟨p, q, s.indices⟩ := by
  rw [Rules.of, delimiter, record]
  rfl

/-- A text is refused, or both patterns can be read. -/
theorem refuses_or_patterns (s : Settings) : (∃ text e, s.Refuses text e) ∨
    ∃ p q, delimiterPattern s.delimiter = .ok p ∧ Pattern.ofChars s.record.toList = .ok q := by
  cases delimiter : delimiterPattern s.delimiter with
  | error e => exact .inl ⟨_, e, .delimiter delimiter⟩
  | ok p =>
    cases record : Pattern.ofChars s.record.toList with
    | error e => exact .inl ⟨_, e, .record delimiter record⟩
    | ok q => exact .inr ⟨p, q, rfl, rfl⟩

theorem beyond?_eq_none_iff {indices : Indices} {groups : Nat} :
    indices.beyond? groups = none ↔ ∀ index ∈ indices.named, 1 ≤ index.2 ∧ index.2 ≤ groups := by
  unfold Indices.beyond?
  rw [List.find?_eq_none]
  refine forall₂_congr fun index _ => ?_
  simp only [Bool.or_eq_true, decide_eq_true_eq, not_or, Int.not_lt]

/-! ## Rules -/

/-- There are rules just if both patterns can be read and the record pattern has a group for every
index. -/
theorem of_eq_ok_iff (s : Settings) (r : Rules) : Rules.of s = .ok r ↔
    delimiterPattern s.delimiter = .ok r.delimiter ∧ Pattern.ofChars s.record.toList = .ok r.record ∧
      r.indices = s.indices ∧ ∀ index ∈ s.indices.named, 1 ≤ index.2 ∧ index.2 ≤ r.record.groups := by
  constructor
  · intro checked
    rcases refuses_or_patterns s with ⟨text, e, refuses⟩ | ⟨p, q, delimiter, record⟩
    · obtain ⟨fault, pattern, failed⟩ := of_refuses refuses
      rw [failed] at checked
      cases checked
    · rw [of_patterns delimiter record] at checked
      split at checked
      · cases checked
      · cases checked
        exact ⟨delimiter, record, rfl, beyond?_eq_none_iff.mp ‹_›⟩
  · rintro ⟨delimiter, record, same, inside⟩
    rw [of_patterns delimiter record, beyond?_eq_none_iff.mpr inside, ← same]

/-! ## Failures -/

/-- What is wrong with the text of a pattern is the fault of a setting. -/
theorem patternFailure_invalid (fault : String → String → ConfigurationFault) (pattern : String)
    (invalid : e.kind = .invalid) :
    patternFailure fault text pattern e = .engine (.configuration (fault pattern (e.message text))) := by
  unfold patternFailure
  rw [invalid]

/-- What a text has too much of is passed on. -/
theorem patternFailure_excess (fault : String → String → ConfigurationFault) (pattern : String)
    (excess : Excess text e) : patternFailure fault text pattern e = .overflow (e.message text) ∨
      patternFailure fault text pattern e = .value (e.message text) := by
  unfold patternFailure
  cases excess with
  | count => exact .inl rfl
  | digits => exact .inr rfl
  | code => exact .inl rfl
  | letters => exact .inr rfl

/-- Settings give rules just if both patterns can be read and the record pattern, which has as many
groups as its node, has one for every index. Where they give none, the configuration is at fault,
unless the first text that is refused has too much of something: then, and only then, the failure
is another, a number out of bounds or a value that cannot be used. -/
theorem of_exact (s : Settings) :
    (∀ r, Rules.of s = .ok r ↔
      delimiterPattern s.delimiter = .ok r.delimiter ∧ Pattern.ofChars s.record.toList = .ok r.record ∧
        r.indices = s.indices ∧ ∀ index ∈ s.indices.named, 1 ≤ index.2 ∧ index.2 ≤ r.record.node.captures) ∧
    ((∀ f, Rules.of s = .error f → ∃ fault, f = .engine (.configuration fault)) ↔
      ¬ ∃ text e, s.Refuses text e ∧ Excess text e) ∧
    ∀ text e, s.Refuses text e → Excess text e →
      Rules.of s = .error (.overflow (e.message text)) ∨ Rules.of s = .error (.value (e.message text)) := by
  have passed (text : List Char) (e : Pattern.Error) (refuses : s.Refuses text e) (excess : Excess text e) :
      Rules.of s = .error (.overflow (e.message text)) ∨ Rules.of s = .error (.value (e.message text)) := by
    obtain ⟨fault, pattern, failed⟩ := of_refuses refuses
    rw [failed]
    exact (patternFailure_excess fault pattern excess).imp (congrArg _) (congrArg _)
  refine ⟨fun r => ?_, ⟨fun closed => ?_, fun modest f failed => ?_⟩, passed⟩
  · rw [of_eq_ok_iff]
    refine and_congr_right fun _ => and_congr_right fun record => ?_
    have counted := Pattern.ofChars_accounted s.record.toList
    rw [record] at counted
    rw [show r.record.groups = r.record.node.captures from counted]
  · rintro ⟨text, e, refuses, excess⟩
    rcases passed text e refuses excess with failed | failed
    · obtain ⟨fault, same⟩ := closed _ failed
      cases same
    · obtain ⟨fault, same⟩ := closed _ failed
      cases same
  · rcases refuses_or_patterns s with ⟨text, e, refuses⟩ | ⟨p, q, delimiter, record⟩
    · have accounted := Pattern.ofChars_accounted text
      rw [ofChars_of_refuses refuses] at accounted
      rcases accounted with invalid | excess
      · obtain ⟨fault, pattern, refused⟩ := of_refuses refuses
        rw [refused, patternFailure_invalid fault pattern invalid] at failed
        cases failed
        exact ⟨_, rfl⟩
      · exact absurd ⟨text, e, refuses, excess⟩ modest
    · rw [of_patterns delimiter record] at failed
      split at failed
      · cases failed
        exact ⟨_, rfl⟩
      · cases failed

/-- A record pattern with a number of repetitions that is too large. -/
example : (match Rules.of { record := "a\x7b4294967295\x7d" } with
    | .error f => f == .overflow "the repetition number is too large"
    | .ok _ => false) = true := by decide +kernel

end Rules

end Diagnosis
