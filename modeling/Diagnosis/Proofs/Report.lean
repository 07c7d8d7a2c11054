import Diagnosis.Report

/-!
# The account of a report

Every block of an output lands in exactly one place of the report about a
document. It becomes a diagnostic if it names the document and one of its lines,
it is counted if it names another file, and all else is an issue. The order of
the blocks is kept in each place.
-/

namespace Diagnosis

open Diagnosis.Text (readInt?)

/-! ## What a block names -/

namespace Rules

/-- What the group of an index has taken in a block, if the record pattern matches there and the
group took part. -/
def captured (r : Rules) (block : String) (index : Int) : Option String :=
  (r.record.search block.toList.toArray).bind (·.group? block.toList.toArray index.toNat)

/-- The file and the line that a block names, if it names both and the line is a number. -/
def named? (r : Rules) (block : String) : Option (String × Int) := do
  let file ← r.captured block r.indices.file
  let line ← r.captured block r.indices.line
  return (file, ← readInt? line.toList)

/-- The column that a block names, zero if it names none. -/
def columnOf (r : Rules) (block : String) : Int :=
  ((r.captured block r.indices.column).bind fun s => readInt? s.toList).getD 0

/-- What a block says about how bad it is. -/
def severityTextOf (r : Rules) (block : String) : String := (r.captured block r.indices.severity).getD ""

/-- A block names a file and one of its lines. -/
def keeps (r : Rules) (name : String) (count : Nat) (block : String) : Bool :=
  (r.named? block).any fun (file, line) => file == name && decide (1 ≤ line ∧ line ≤ count)

/-- A block names another file. -/
def skips (r : Rules) (name block : String) : Bool := (r.named? block).any fun (file, _) => file != name

theorem extract_eq (r : Rules) (block : String) :
    r.extract block =
      (r.named? block).map fun (file, line) => ⟨file, line, r.columnOf block, r.severityTextOf block, block⟩ := by
  simp only [extract, named?, columnOf, severityTextOf, captured, Option.bind_eq_bind, Option.pure_def]
  cases r.record.search block.toList.toArray with
  | none => rfl
  | some found =>
    simp only [Option.bind_some]
    cases found.group? block.toList.toArray r.indices.file.toNat with
    | none => rfl
    | some file =>
      cases found.group? block.toList.toArray r.indices.line.toNat with
      | none => rfl
      | some line =>
        simp only [Option.bind_some]
        cases readInt? line.toList <;> rfl

/-- No block is kept and skipped. -/
theorem not_skips_of_keeps {r : Rules} {name block : String} {count : Nat} (kept : r.keeps name count block = true) :
    r.skips name block = false := by
  unfold keeps at kept
  unfold skips
  cases named : r.named? block with
  | none => rfl
  | some place =>
    rw [named, Option.any_some, Bool.and_eq_true, beq_iff_eq] at kept
    simp [kept.1]

end Rules

/-! ## Where a block lands -/

/-- The diagnostic of a block about a line of a document, the line numbered from zero. -/
def Rules.diagnosticOf (r : Rules) (settings : Settings) (name : String) (lines : List (List Char)) (block : String)
    (line : Nat) : Diagnostic where
  range := ⟨⟨line, 0⟩, ⟨line, (lines[line]?.getD []).length⟩⟩
  severity := classify settings.identifiers (r.severityTextOf block)
  message := block
  source := settings.command
  column := r.columnOf block
  file := name

/-- Why a block is an issue, if it names the document or nothing at all. -/
def Rules.reasonOf (r : Rules) (count : Nat) (block : String) : IssueReason :=
  match r.named? block with
  | none => .noRecord
  | some (_, line) => .line ⟨line, count⟩

section

variable {rules : Rules} {name : String} {table : LineTable} {block : String}

theorem place_of_keeps (settings : Settings) (kept : rules.keeps name table.size block = true) :
    ∃ line : Nat, line < table.size ∧ rules.named? block = some (name, (line : Int) + 1) ∧
      place rules settings name table block =
        .diagnostic (rules.diagnosticOf settings name table.lines block line) := by
  unfold Rules.keeps at kept
  cases named : rules.named? block with
  | none => rw [named] at kept; cases kept
  | some found =>
    obtain ⟨file, line⟩ := found
    rw [named, Option.any_some, Bool.and_eq_true, beq_iff_eq, decide_eq_true_eq] at kept
    obtain ⟨rfl, inside⟩ := kept
    obtain ⟨l, rfl⟩ : ∃ l : Nat, line = l + 1 := ⟨(line - 1).toNat, by omega⟩
    refine ⟨l, by omega, rfl, ?_⟩
    have shifted : (l : Int) + 1 - 1 = l := by omega
    simp only [place, rules.extract_eq, named, Option.map_some, ne_eq, not_true_eq_false, ↓reduceIte, LineTable.range,
      if_pos inside, shifted, Int.toNat_natCast]
    rfl

theorem place_of_skips (settings : Settings) (table : LineTable) (skipped : rules.skips name block = true) :
    ∃ file, place rules settings name table block = .other file := by
  unfold Rules.skips at skipped
  cases named : rules.named? block with
  | none => rw [named] at skipped; cases skipped
  | some found =>
    obtain ⟨file, line⟩ := found
    rw [named, Option.any_some, bne_iff_ne] at skipped
    exact ⟨file, by simp [place, rules.extract_eq, named, skipped]⟩

theorem place_of_neither (settings : Settings) (kept : rules.keeps name table.size block = false)
    (skipped : rules.skips name block = false) :
    place rules settings name table block = .issue ⟨block, rules.reasonOf table.size block⟩ := by
  unfold Rules.keeps at kept
  unfold Rules.skips at skipped
  unfold Rules.reasonOf
  cases named : rules.named? block with
  | none => simp [place, rules.extract_eq, named]
  | some found =>
    obtain ⟨file, line⟩ := found
    rw [named, Option.any_some, bne_eq_false_iff_eq] at skipped
    subst skipped
    have beyond : ¬ (1 ≤ line ∧ line ≤ (table.size : Int)) := by simpa [named] using kept
    simp [place, rules.extract_eq, named, LineTable.range, beyond]

end

/-! ## Accounts -/

/-- What a report on a document of some lines makes of blocks. -/
structure Accounts (rules : Rules) (settings : Settings) (name : String) (lines : List (List Char))
    (bs : List String) (r : Report) : Prop where
  /-- The diagnostics are the blocks that name the document and one of its lines. -/
  kept : r.diagnostics.map (·.message) = bs.filter (rules.keeps name lines.length)
  /-- Each of them covers its line. -/
  placed : ∀ d ∈ r.diagnostics, ∃ line : Nat, line < lines.length ∧
    rules.named? d.message = some (name, (line : Int) + 1) ∧ d = rules.diagnosticOf settings name lines d.message line
  /-- Blocks that name another file are counted. -/
  counted : r.filtered = bs.countP (rules.skips name)
  /-- The issues are the other blocks. -/
  rest : r.issues.map (·.block) = bs.filter fun b => ! rules.keeps name lines.length b && ! rules.skips name b
  reasons : ∀ i ∈ r.issues, i.reason = rules.reasonOf lines.length i.block
  /-- No block is lost, and none is in two places. -/
  total : r.diagnostics.length + r.issues.length + r.filtered = bs.length

theorem accounts_nil (rules : Rules) (settings : Settings) (name : String) (lines : List (List Char)) :
    Accounts rules settings name lines [] {} where
  kept := rfl
  placed := by simp
  counted := rfl
  rest := rfl
  reasons := by simp
  total := rfl

theorem Accounts.cons {rules : Rules} {settings : Settings} {name : String} {table : LineTable} {bs : List String}
    {r : Report} (accounts : Accounts rules settings name table.lines bs r) (block : String) :
    Accounts rules settings name table.lines (block :: bs)
      (r.cons (place rules settings name table block)) := by
  have count : table.lines.length = table.size := rfl
  have total := accounts.total
  cases kept : rules.keeps name table.size block with
  | true =>
    have unskipped := Rules.not_skips_of_keeps kept
    obtain ⟨line, inside, named, placed⟩ := place_of_keeps settings kept
    rw [placed]
    refine ⟨?_, ?_, ?_, ?_, accounts.reasons, ?_⟩
    · simp only [Report.cons, List.map_cons, accounts.kept, count, List.filter_cons_of_pos kept]
      rfl
    · intro d member
      rcases List.mem_cons.mp member with rfl | old
      · exact ⟨line, inside, named, rfl⟩
      · exact accounts.placed d old
    · rw [List.countP_cons_of_neg (by simp [unskipped])]
      exact accounts.counted
    · rw [List.filter_cons_of_neg (by simp [count, kept])]
      exact accounts.rest
    · simp only [Report.cons, Report.filtered, List.length_cons] at total ⊢
      omega
  | false =>
    have unkept : ¬ rules.keeps name table.lines.length block = true := by simp [count, kept]
    cases skipped : rules.skips name block with
    | true =>
      obtain ⟨file, placed⟩ := place_of_skips settings table skipped
      rw [placed]
      refine ⟨?_, accounts.placed, ?_, ?_, accounts.reasons, ?_⟩
      · rw [List.filter_cons_of_neg unkept]
        exact accounts.kept
      · rw [List.countP_cons_of_pos skipped, ← accounts.counted]
        rfl
      · rw [List.filter_cons_of_neg (by simp [skipped])]
        exact accounts.rest
      · simp only [Report.cons, Report.filtered, List.length_cons] at total ⊢
        omega
    | false =>
      rw [place_of_neither settings kept skipped]
      refine ⟨?_, accounts.placed, ?_, ?_, ?_, ?_⟩
      · rw [List.filter_cons_of_neg unkept]
        exact accounts.kept
      · rw [List.countP_cons_of_neg (by simp [skipped])]
        exact accounts.counted
      · rw [List.filter_cons_of_pos (by simp [count, kept, skipped]), ← accounts.rest]
        rfl
      · intro i member
        rcases List.mem_cons.mp member with rfl | old
        · rfl
        · exact accounts.reasons i old
      · simp only [Report.cons, Report.filtered, List.length_cons] at total ⊢
        omega

theorem accounts_ofPlaced (rules : Rules) (settings : Settings) (name : String) (table : LineTable) (bs : List String) :
    Accounts rules settings name table.lines bs (.ofPlaced (bs.map (place rules settings name table))) := by
  induction bs with
  | nil => exact accounts_nil ..
  | cons block rest ih => exact ih.cons block

theorem report_of_rules {settings : Settings} {rules : Rules} (checked : Rules.of settings = .ok rules)
    (output name text : String) :
    report settings output name text =
      .ok (.ofPlaced ((blocks rules.delimiter output).map (place rules settings name (.ofText text)))) := by
  simp [report, checked, Bind.bind, Except.bind, Pure.pure, Except.pure]

/-- Whatever the output and the document, settings whose patterns and indices are in order give a
report, and it accounts for every block of the output. -/
theorem report_accounts {settings : Settings} {rules : Rules} (checked : Rules.of settings = .ok rules)
    (output name text : String) :
    ∃ r, report settings output name text = .ok r ∧
      Accounts rules settings name (Text.lines text.toList) (blocks rules.delimiter output) r :=
  ⟨_, report_of_rules checked output name text, accounts_ofPlaced rules settings name (.ofText text) _⟩

/-- Settings whose record pattern has a column and a severity that may be missing. -/
def sparseSettings : Settings :=
  { delimiter := "^\\S+\\(", record := "^(\\S+?)\\((\\w+)\\)(?:,(\\d+))?: (warning|error)?" }

/-- An output with a banner, a line of the document, another file, a line that is no number, and a
line that the document does not have. -/
def sparseOutput : String :=
  "make: a.c\na.c(2): warning w\n  ^\nb.h(1): error e\na.c(x),1: error f\na.c(9),1: g\n"

/-- Every one of its blocks is accounted for. -/
theorem report_accounts_sparse :
    ∃ rules r, Rules.of sparseSettings = .ok rules ∧ report sparseSettings sparseOutput "a.c" "one\r\ntwo" = .ok r ∧
      Accounts rules sparseSettings "a.c" ["one".toList, "two".toList] (blocks rules.delimiter sparseOutput) r ∧
      r.diagnostics.map (·.message) = ["a.c(2): warning w\n  ^\n"] ∧ r.filtered = 1 ∧
      r.issues.map (·.block) = ["make: a.c\n", "a.c(x),1: error f\n", "a.c(9),1: g\n"] := by
  have compiled : (Rules.of sparseSettings).toOption.isSome = true := by decide +kernel
  have checked : (report sparseSettings sparseOutput "a.c" "one\r\ntwo").toOption.map
      (fun r => (r.diagnostics.map (·.message), r.filtered, r.issues.map (·.block))) =
        some (["a.c(2): warning w\n  ^\n"], 1, ["make: a.c\n", "a.c(x),1: error f\n", "a.c(9),1: g\n"]) := by
    decide +kernel
  cases read : Rules.of sparseSettings with
  | error f => rw [read] at compiled; cases compiled
  | ok rules =>
    obtain ⟨r, reported, accounts⟩ := report_accounts read sparseOutput "a.c" "one\r\ntwo"
    rw [reported] at checked
    obtain ⟨kept, others⟩ := Prod.mk.inj (Option.some.inj checked)
    obtain ⟨counted, rest⟩ := Prod.mk.inj others
    exact ⟨rules, r, rfl, reported, accounts, kept, counted, rest⟩

end Diagnosis
