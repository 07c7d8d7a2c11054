import Diagnosis.Proofs.Gcc.Heading

/-!
# Messages are read back

Output of whole messages is cut into them again, and each message gives its
file, line, column and severity. What stands before the first message is one
block that names nothing.
-/

namespace Diagnosis.Gcc

open Pattern
open Diagnosis.Text (readInt? decimal digitLimit)

/-! ## What a compiler writes -/

/-- Whether the default delimiter matches in a line. -/
def delimiterMatches (line : String) : Bool :=
  (Pattern.ofChars ({} : Settings).delimiter.toList).toOption.any fun p => (p.search line.toList.toArray).isSome

/-- A line in which the default delimiter does not match. -/
structure Note where
  text : String
  single : '\n' ∉ text.toList
  silent : delimiterMatches text = false

/-- A message about a place in a file, with the lines that come after it. -/
structure Entry where
  file : String
  line : Nat
  column : Nat
  severity : Severity
  message : String
  notes : List Note
  named : file ≠ ""
  file_single : '\n' ∉ file.toList
  line_short : line < 10 ^ digitLimit
  column_short : column < 10 ^ digitLimit
  message_single : '\n' ∉ message.toList
  message_plain : ':' ∉ message.toList

/-- The text of lines. -/
def linesText (ls : List String) : String := String.join (ls.map (· ++ "\n"))

/-- The text of notes. -/
def notesText (notes : List Note) : String := linesText (notes.map (·.text))

/-- The word for a severity. -/
def wordOf (s : Severity) : String := ({} : Identifiers).of s

/-- The line with a message about a place in a file. -/
def lineOf (file : String) (line column : Nat) (s : Severity) (message : String) : String :=
  file ++ ":" ++ decimal line ++ ":" ++ decimal column ++ ": " ++ wordOf s ++ ": " ++ message

namespace Entry

/-- The first line of a message. -/
def heading (e : Entry) : String := lineOf e.file e.line e.column e.severity e.message

/-- The text of a message. -/
def text (e : Entry) : String := linesText [e.heading] ++ notesText e.notes

end Entry

/-- The output of a compiler that writes some lines and then messages. -/
def outputOf (banner : List Note) (entries : List Entry) : String :=
  notesText banner ++ String.join (entries.map (·.text))

/-! ## Where the output is cut -/

theorem delimiter_default : Pattern.ofChars ({} : Settings).delimiter.toList = .ok ⟨delimiterNode, 0⟩ := by
  have read : (Pattern.ofChars ({} : Settings).delimiter.toList).toOption = some ⟨delimiterNode, 0⟩ := by
    decide +kernel
  cases outcome : Pattern.ofChars ({} : Settings).delimiter.toList with
  | error fault => rw [outcome] at read; cases read
  | ok found => rw [outcome] at read; cases read; rfl

theorem Note.delimits_eq_false (note : Note) : delimits note.text.toList = false := by
  have silent := note.silent
  rw [delimiterMatches, delimiter_default] at silent
  cases delimiting : delimits note.text.toList with
  | false => rfl
  | true =>
    have stands : delimiterNode.standsAt 0 note.text.toList.toArray 0 = true := by
      simp [standsAt_delimiter, delimiting]
    obtain ⟨place, matched⟩ := Option.isSome_iff_exists.mp stands
    have found : (⟨delimiterNode, 0⟩ : Pattern).search note.text.toList.toArray = some ⟨0, place⟩ :=
      search_of_first matched
    rw [Except.toOption, Option.any_some, found] at silent
    cases silent

theorem toList_notesText_cons (note : Note) (notes : List Note) :
    (notesText (note :: notes)).toList = note.text.toList ++ '\n' :: (notesText notes).toList := by
  simp [notesText, linesText]

/-- Notes begin no block. -/
theorem starts_notes (notes : List Note) (more : List Char) :
    starts ((notesText notes).toList ++ more) = (starts more).map ((notesText notes).toList.length + ·) := by
  induction notes with
  | nil => simp [notesText, linesText]
  | cons note notes ih =>
    rw [toList_notesText_cons, List.append_assoc, List.cons_append, starts_line note.single, note.delimits_eq_false, ih]
    simp [Nat.add_assoc, Nat.add_comm 1]

/-! ## Messages as headings -/

theorem wordOf_plain (s : Severity) : ∀ c ∈ (wordOf s).toList, c ≠ ':' ∧ c ≠ '\n' := by
  have all : (wordOf s).toList.all (fun c => c != ':' && c != '\n') = true := by cases s <;> decide
  simpa [List.all_eq_true] using all

theorem wordOf_spoken (s : Severity) : (wordOf s).toList.head?.any (! Text.isBlank ·) = true := by
  cases s <;> decide

theorem classify_wordOf (s : Severity) : classify {} (wordOf s) = s := by
  cases s <;> decide

/-- Behind a severity, only what comes after its colon can move the location. -/
theorem relocates_word (s : Severity) (rest : List Char) :
    relocates ((wordOf s).toList ++ ':' :: ' ' :: rest) = relocates rest := by
  have unnumbered : numbered? (' ' :: rest) = none := numbered?_of_not_isDigit (by decide) rest
  calc relocates ((wordOf s).toList ++ ':' :: ' ' :: rest)
    _ = relocates (':' :: ' ' :: rest) := relocates_append (wordOf_plain s) _
    _ = relocates (' ' :: rest) := relocates_cons_of_not_located (by decide) (located?_of_not_numbered unnumbered)
    _ = relocates rest := relocates_cons_of_not_located (by decide) (located?_of_ne (by decide) rest)

theorem lineOf_single {file message : String} (file_single : '\n' ∉ file.toList) (message_single : '\n' ∉ message.toList)
    (line column : Nat) (s : Severity) : '\n' ∉ (lineOf file line column s message).toList := by
  have digits (n : Nat) : '\n' ∉ (decimal n).toList := fun member => by
    have digit := Text.decimal_digits n _ member
    cases digit
  have word : '\n' ∉ (wordOf s).toList := fun member => (wordOf_plain s _ member).2 rfl
  simp [lineOf, file_single, message_single, digits, word]

namespace Entry

theorem takeWhile_message (e : Entry) (more : List Char) :
    (e.message.toList ++ '\n' :: more).takeWhile (· != '\n') = e.message.toList := by
  rw [takeWhile_append_single e.message_single]
  simp

/-- A message as a heading with lines after it. -/
def asHeading (e : Entry) : Heading where
  file := e.file.toList
  line := (decimal e.line).toList
  column := (decimal e.column).toList
  said := (wordOf e.severity).toList
  ending := ' ' :: (e.message.toList ++ '\n' :: (notesText e.notes).toList)
  file_single := e.file_single
  line_digits := ⟨Text.decimal_ne_nil _, Text.decimal_digits _⟩
  column_digits := ⟨Text.decimal_ne_nil _, Text.decimal_digits _⟩
  spoken := wordOf_spoken _
  said_single member := (wordOf_plain e.severity _ member).2 rfl
  last_colon := by
    rw [List.takeWhile_cons_of_pos (by decide), takeWhile_message]
    simpa using e.message_plain
  settled := by
    rw [relocates_word]
    exact relocates_eq_false (by rw [takeWhile_message]; exact e.message_plain)

theorem toList_text (e : Entry) :
    e.text.toList = e.heading.toList ++ '\n' :: (notesText e.notes).toList := by
  simp [text, linesText]

theorem text_asHeading (e : Entry) : e.asHeading.text = e.text.toList := by
  simp [toList_text, heading, lineOf, asHeading, Heading.text, Heading.behindFile, locationText]

theorem named_asHeading (e : Entry) : e.asHeading.file ≠ [] := by
  simpa [asHeading] using e.named

theorem heading_single (e : Entry) : '\n' ∉ e.heading.toList :=
  lineOf_single e.file_single e.message_single e.line e.column e.severity

/-- A message begins a block. -/
theorem delimits_heading (e : Entry) : delimits e.heading.toList = true := by
  rw [← delimits_append_lineFeed e.heading_single (notesText e.notes).toList, ← toList_text, ← text_asHeading]
  exact e.asHeading.delimits_text e.named_asHeading

theorem starts_text (e : Entry) (more : List Char) :
    starts (e.text.toList ++ more) = 0 :: (starts more).map (e.text.toList.length + ·) := by
  rw [toList_text, List.append_assoc, List.cons_append, starts_line e.heading_single, e.delimits_heading, starts_notes]
  simp [Nat.add_assoc, Nat.add_comm 1]

/-- The fields of a message. -/
theorem extract_text (e : Entry) :
    rules.extract e.text = some ⟨e.file, e.line, e.column, wordOf e.severity, e.text⟩ := by
  have fields := e.asHeading.extract_named e.named_asHeading
  rw [text_asHeading] at fields
  simpa [asHeading, Text.readInt?_decimal, e.line_short, e.column_short] using fields

end Entry

theorem starts_entries (entries : List Entry) :
    starts (entries.flatMap fun e => e.text.toList) = chunkStarts 0 (entries.map fun e => e.text.toList) := by
  induction entries with
  | nil => exact starts_nil
  | cons e rest ih =>
    rw [List.flatMap_cons, e.starts_text, ih, List.map_cons, chunkStarts, ← chunkStarts_add, Nat.zero_add, Nat.add_zero]

/-- Output is cut into what stands before the first message, and the messages. -/
theorem blocks_output (banner : List Note) (entries : List Entry) :
    blocks rules.delimiter (outputOf banner entries) =
      (if banner = [] then [] else [notesText banner]) ++ entries.map (·.text) := by
  have whole : (outputOf banner entries).toList =
      (notesText banner).toList ++ (entries.map fun e => e.text.toList).flatten := by
    simp [outputOf, List.flatMap, Function.comp_def]
  have cuts : matchStarts rules.delimiter (outputOf banner entries).toList.toArray =
      chunkStarts (notesText banner).toList.length (entries.map fun e => e.text.toList) := by
    have cut := starts_notes banner (entries.flatMap fun e => e.text.toList)
    rw [starts_entries, ← chunkStarts_add, Nat.add_zero, List.flatMap] at cut
    rw [whole]
    exact cut
  have some_text : ∀ chunk ∈ entries.map fun e => e.text.toList, chunk ≠ [] := by
    intro chunk member
    obtain ⟨e, _, rfl⟩ := List.mem_map.mp member
    simp [e.toList_text]
  have pieces := piecesFrom_chunkStarts [] (notesText banner).toList _ some_text
  rw [List.nil_append, List.length_nil, Nat.zero_add, ← whole, ← cuts] at pieces
  have front : (notesText banner).toList = [] ↔ banner = [] := by
    cases banner with
    | nil => simp [notesText, linesText]
    | cons note rest => simp [toList_notesText_cons]
  rw [blocks, pieces, List.map_append, List.map_map]
  simp only [front]
  split <;> simp [Function.comp_def]

/-! ## What the report says -/

/-- The range of a line of a document. -/
def lineRange (text : String) (line : Nat) : Range :=
  ⟨⟨(line : Int) - 1, 0⟩, ⟨(line : Int) - 1, ((Text.lines text.toList)[line - 1]?.getD []).length⟩⟩

theorem range_ofText (text : String) (line : Nat) : (LineTable.ofText text).range line =
    if 1 ≤ line ∧ line ≤ (Text.lines text.toList).length then .ok (lineRange text line)
    else .error ⟨line, (Text.lines text.toList).length⟩ := by
  have shifted : ((line : Int) - 1).toNat = line - 1 := by omega
  have same : (1 ≤ (line : Int) ∧ (line : Int) ≤ (LineTable.ofText text).size) ↔
      1 ≤ line ∧ line ≤ (Text.lines text.toList).length := by
    simp only [LineTable.size, LineTable.ofText]
    omega
  simp only [LineTable.range, same, shifted]
  rfl

namespace Entry

variable (name text : String)

/-- The message is about a line of a document. -/
def isInside (e : Entry) : Bool :=
  e.file == name && decide (1 ≤ e.line ∧ e.line ≤ (Text.lines text.toList).length)

/-- The message is about a line that a document does not have. -/
def isOutside (e : Entry) : Bool :=
  e.file == name && ! decide (1 ≤ e.line ∧ e.line ≤ (Text.lines text.toList).length)

/-- The diagnostic for a message about a line of a document. -/
def toDiagnostic (e : Entry) : Diagnostic where
  range := lineRange text e.line
  severity := e.severity
  message := e.text
  source := "gcc"
  column := e.column
  file := e.file

/-- The issue of a message about a line that a document does not have. -/
def toIssue (e : Entry) : Issue := ⟨e.text, .line ⟨e.line, (Text.lines text.toList).length⟩⟩

theorem place_text (e : Entry) : place rules {} name (.ofText text) e.text =
    if e.isInside name text then .diagnostic (e.toDiagnostic text)
    else if e.isOutside name text then .issue (e.toIssue text)
    else .other e.file := by
  have severity : classify ({} : Settings).identifiers (wordOf e.severity) = e.severity := classify_wordOf _
  rw [place, e.extract_text, isInside, isOutside]
  by_cases same : e.file = name
  · subst same
    by_cases inside : 1 ≤ e.line ∧ e.line ≤ (Text.lines text.toList).length
    · simp only [range_ofText, inside, severity, toDiagnostic]
      simp
    · simp only [range_ofText, inside, toIssue]
      simp
  · simp [same]

section

variable {name text : String} {e : Entry}

theorem of_isInside (inside : e.isInside name text = true) : e.file = name ∧ e.isOutside name text = false := by
  simp only [isInside, Bool.and_eq_true, beq_iff_eq] at inside
  exact ⟨inside.1, by simp [isOutside, inside.2]⟩

theorem of_isOutside (outside : e.isOutside name text = true) : e.file = name := by
  simp only [isOutside, Bool.and_eq_true, beq_iff_eq] at outside
  exact outside.1

theorem of_neither (inside : e.isInside name text = false) (outside : e.isOutside name text = false) :
    e.file ≠ name := by
  intro same
  simp only [isInside, isOutside, same, beq_self_eq_true, Bool.true_and, Bool.not_eq_false'] at inside outside
  rw [inside] at outside
  cases outside

end

end Entry

/-- The report on messages alone. -/
def reportOf (entries : List Entry) (name text : String) : Report :=
  .ofPlaced ((entries.map (·.text)).map (place rules {} name (.ofText text)))

/-- The messages are told apart in their order. -/
theorem reportOf_eq (entries : List Entry) (name text : String) :
    (reportOf entries name text).diagnostics = (entries.filter (·.isInside name text)).map (·.toDiagnostic text) ∧
      (reportOf entries name text).filtered = entries.countP (·.file != name) ∧
      (reportOf entries name text).issues = (entries.filter (·.isOutside name text)).map (·.toIssue text) := by
  induction entries with
  | nil => exact ⟨rfl, rfl, rfl⟩
  | cons e rest ih =>
    obtain ⟨diagnostics, filtered, issues⟩ := ih
    have first : reportOf (e :: rest) name text =
        (reportOf rest name text).cons (place rules {} name (.ofText text) e.text) := rfl
    rw [first, e.place_text]
    cases inside : e.isInside name text with
    | true =>
      obtain ⟨same, outside⟩ := Entry.of_isInside inside
      refine ⟨?_, ?_, ?_⟩
      · rw [List.filter_cons_of_pos inside, List.map_cons, ← diagnostics]
        rfl
      · rw [List.countP_cons_of_neg (by simp [same])]
        exact filtered
      · rw [List.filter_cons_of_neg (by simp [outside])]
        exact issues
    | false =>
      cases outside : e.isOutside name text with
      | true =>
        have same := Entry.of_isOutside outside
        refine ⟨?_, ?_, ?_⟩
        · rw [List.filter_cons_of_neg (by simp [inside])]
          exact diagnostics
        · rw [List.countP_cons_of_neg (by simp [same])]
          exact filtered
        · rw [List.filter_cons_of_pos outside, List.map_cons, ← issues]
          rfl
      | false =>
        have other : (e.file != name) = true := bne_iff_ne.mpr (Entry.of_neither inside outside)
        refine ⟨?_, ?_, ?_⟩
        · rw [List.filter_cons_of_neg (by simp [inside])]
          exact diagnostics
        · rw [List.countP_cons_of_pos (by exact other), ← filtered]
          rfl
        · rw [List.filter_cons_of_neg (by simp [outside])]
          exact issues

/-- The issue of what stands before the first message. -/
def bannerIssues (banner : List Note) : List Issue :=
  if banner = [] then [] else [⟨notesText banner, .noRecord⟩]

/-- Whatever a compiler writes before its messages, and whatever they are, the default settings
read them back. -/
theorem report_output (banner : List Note) (entries : List Entry) (name text : String) :
    ∃ r, report {} (outputOf banner entries) name text = .ok r ∧
      r.diagnostics = (entries.filter (·.isInside name text)).map (·.toDiagnostic text) ∧
      r.filtered = entries.countP (·.file != name) ∧
      r.issues = bannerIssues banner ++ (entries.filter (·.isOutside name text)).map (·.toIssue text) := by
  obtain ⟨diagnostics, filtered, issues⟩ := reportOf_eq entries name text
  refine ⟨_, report_of_rules rules_default _ name text, ?_⟩
  rw [blocks_output, List.map_append, bannerIssues]
  by_cases quiet : banner = []
  · rw [if_pos quiet, if_pos quiet]
    exact ⟨diagnostics, filtered, issues⟩
  · have unnamed : rules.extract (notesText banner) = none := by
      have uncut := starts_notes banner []
      rw [List.append_nil, starts_nil] at uncut
      exact extract_eq_none (search_eq_none_of_uncut uncut)
    have placed : place rules {} name (.ofText text) (notesText banner) = .issue ⟨notesText banner, .noRecord⟩ := by
      rw [place, unnamed]
    have whole : Report.ofPlaced ([Placed.issue ⟨notesText banner, .noRecord⟩] ++
          (entries.map (·.text)).map (place rules {} name (.ofText text))) =
        (reportOf entries name text).cons (.issue ⟨notesText banner, .noRecord⟩) := rfl
    rw [if_neg quiet, if_neg quiet, List.map_singleton, placed, whole]
    exact ⟨diagnostics, filtered, congrArg (_ :: ·) issues⟩

/-! ## An example -/

theorem short_of_lt {n : Nat} (small : n < 10) : n < 10 ^ digitLimit :=
  calc n < 10 ^ 1 := small
    _ ≤ 10 ^ digitLimit := Nat.pow_le_pow_right (by decide) (by decide)

/-- A warning about a line of a document, with two notes. -/
def sampleWarning : Entry where
  file := "a.c"
  line := 2
  column := 5
  severity := .warning
  message := "unused variable"
  notes := [⟨"    int y;", by decide, by decide +kernel⟩, ⟨"    ^", by decide, by decide +kernel⟩]
  named := by decide
  file_single := by decide
  line_short := short_of_lt (by decide)
  column_short := short_of_lt (by decide)
  message_single := by decide
  message_plain := by decide

/-- An error about a file and a line. -/
def sampleError (file : String) (named : file ≠ "") (single : '\n' ∉ file.toList) (line : Nat) (small : line < 10) :
    Entry where
  file := file
  line := line
  column := 1
  severity := .error
  message := ""
  notes := []
  named := named
  file_single := single
  line_short := short_of_lt small
  column_short := short_of_lt (by decide)
  message_single := by decide
  message_plain := by decide

/-- A banner, and messages about a line of the document, a header, and a line too many. -/
def sampleOutput : String :=
  outputOf [⟨"In file included from a.c:1:", by decide, by decide +kernel⟩]
    [sampleWarning, sampleError "b.h" (by decide) (by decide) 1 (by decide),
      sampleError "a.c" (by decide) (by decide) 4 (by decide)]

theorem report_output_sample :
    sampleOutput = "In file included from a.c:1:\na.c:2:5: warning: unused variable\n    int y;\n    ^\n" ++
        "b.h:1:1: error: \na.c:4:1: error: \n" ∧
      ∃ r, report {} sampleOutput "a.c" "int x;\nint y;\n" = .ok r ∧
        r.diagnostics = [sampleWarning.toDiagnostic "int x;\nint y;\n"] ∧ r.filtered = 1 ∧
        r.issues.map (·.block) = ["In file included from a.c:1:\n", "a.c:4:1: error: \n"] := by
  refine ⟨by decide +kernel, ?_⟩
  obtain ⟨r, reported, diagnostics, filtered, issues⟩ := report_output
    [⟨"In file included from a.c:1:", by decide, by decide +kernel⟩]
    [sampleWarning, sampleError "b.h" (by decide) (by decide) 1 (by decide),
      sampleError "a.c" (by decide) (by decide) 4 (by decide)] "a.c" "int x;\nint y;\n"
  refine ⟨r, reported, diagnostics.trans ?_, filtered.trans ?_, ?_⟩
  · decide +kernel
  · decide +kernel
  · rw [issues]
    decide +kernel

end Diagnosis.Gcc
