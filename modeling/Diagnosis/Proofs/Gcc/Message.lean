import Diagnosis.Proofs.Gcc.Entry
import Diagnosis.Proofs.Gcc.Relocation

/-!
# What a message says

The default record ends what it takes for the severity at the last colon of the
line, so words before the last colon of a message are looked at as well, and
the worst severity counts. The file, the line and the column are the ones in
front unless the message has a location of its own with a colon behind it.
-/

namespace Diagnosis

/-! ## Words in a text -/

theorem isPrefixOf_append_break {part : List Char} {c : Char} (whole : c ∉ part) (front back : List Char) :
    part.isPrefixOf (front ++ c :: back) = part.isPrefixOf front := by
  induction part generalizing front with
  | nil => simp
  | cons d part ih =>
    cases front with
    | nil =>
      have other : d ≠ c := fun same => whole (List.mem_cons.mpr (.inl same.symm))
      simp [List.isPrefixOf, other]
    | cons e front => simp [List.isPrefixOf, ih (List.not_mem_of_not_mem_cons whole)]

/-- A word that a character does not belong to stands before it or after it. -/
theorem occursIn_append_break {part : List Char} {c : Char} (whole : c ∉ part) (front back : List Char) :
    occursIn part (front ++ c :: back) = (occursIn part front || occursIn part back) := by
  induction front with
  | nil =>
    have here := isPrefixOf_append_break whole [] back
    have empty : occursIn part [] = part.isPrefixOf [] := by cases part <;> rfl
    rw [List.nil_append] at here
    rw [empty, List.nil_append, occursIn, here]
  | cons e front ih =>
    have here := isPrefixOf_append_break whole (e :: front) back
    rw [List.cons_append] at here
    rw [List.cons_append, occursIn, here, ih, occursIn, Bool.or_assoc]

namespace Gcc

open Diagnosis.Text (decimal digitLimit)

/-! ## The last colon -/

/-- What stands before the last colon of a text; nothing if there is none. -/
def beforeLastColon : List Char → List Char
  | [] => []
  | c :: cs => if cs.contains ':' then c :: beforeLastColon cs else []

/-- What stands after the last colon of a text. -/
def afterLastColon : List Char → List Char
  | [] => []
  | _ :: cs => if cs.contains ':' then afterLastColon cs else cs

theorem lastColon_split {cs : List Char} (some_colon : ':' ∈ cs) :
    cs = beforeLastColon cs ++ ':' :: afterLastColon cs ∧ ':' ∉ afterLastColon cs := by
  induction cs with
  | nil => cases some_colon
  | cons c cs ih =>
    rw [beforeLastColon, afterLastColon]
    by_cases later : ':' ∈ cs
    · obtain ⟨split, last⟩ := ih later
      rw [if_pos (List.contains_iff_mem.mpr later), if_pos (List.contains_iff_mem.mpr later), List.cons_append, ← split]
      exact ⟨rfl, last⟩
    · obtain rfl : ':' = c := (List.mem_cons.mp some_colon).resolve_right later
      have none_later : ¬ cs.contains ':' = true := fun found => later (List.contains_iff_mem.mp found)
      rw [if_neg none_later, if_neg none_later]
      exact ⟨rfl, later⟩

theorem beforeLastColon_append (front back : List Char) :
    beforeLastColon (front ++ ':' :: back) =
      if ':' ∈ back then front ++ ':' :: beforeLastColon back else front := by
  induction front with
  | nil => simp [beforeLastColon]
  | cons c front ih =>
    have later : (front ++ ':' :: back).contains ':' = true := by simp
    rw [List.cons_append, beforeLastColon, if_pos later, ih]
    split <;> rfl

theorem beforeLastColon_of_not_mem {cs : List Char} (none_there : ':' ∉ cs) : beforeLastColon cs = [] := by
  cases cs with
  | nil => rfl
  | cons c cs => simp [beforeLastColon, List.not_mem_of_not_mem_cons none_there]

/-! ## Messages -/

/-- A message of one line without a location that a colon comes behind. -/
structure Message where
  text : String
  single : '\n' ∉ text.toList
  settled : relocates text.toList = false

/-- The severity of a message: the worst of the one in front and those named before the last
colon of its text. -/
def worst (s : Severity) (message : String) : Severity :=
  (Severity.all.find? fun t => t == s || occursIn (wordOf t).toList (beforeLastColon message.toList)).getD .error

theorem occursIn_wordOf (s t : Severity) : occursIn (wordOf t).toList (wordOf s).toList = (t == s) := by
  cases s <;> cases t <;> decide

theorem occursIn_said (s t : Severity) (message : List Char) :
    occursIn (wordOf t).toList (beforeLastColon ((wordOf s).toList ++ ':' :: ' ' :: message)) =
      (t == s || occursIn (wordOf t).toList (beforeLastColon message)) := by
  have colonless : ':' ∉ (wordOf t).toList := by cases t <;> decide
  have spaceless : ' ' ∉ (wordOf t).toList := by cases t <;> decide
  have nowhere : occursIn (wordOf t).toList [] = false := by cases t <;> decide
  rw [beforeLastColon_append]
  by_cases some_colon : ':' ∈ message
  · rw [if_pos (List.mem_cons_of_mem _ some_colon)]
    have spaced : beforeLastColon (' ' :: message) = ' ' :: beforeLastColon message := by
      rw [beforeLastColon, if_pos (List.contains_iff_mem.mpr some_colon)]
    have behind := occursIn_append_break spaceless [] (beforeLastColon message)
    rw [List.nil_append, nowhere, Bool.false_or] at behind
    rw [occursIn_append_break colonless, spaced, behind, occursIn_wordOf]
  · rw [if_neg (by simpa using some_colon), beforeLastColon_of_not_mem some_colon, occursIn_wordOf, nowhere,
      Bool.or_false]

theorem classify_said (s : Severity) (message : String) :
    classify {} (.ofList (beforeLastColon ((wordOf s).toList ++ ':' :: ' ' :: message.toList))) = worst s message := by
  rw [classify, worst]
  simp only [String.toList_ofList]
  exact congrArg (·.getD .error) (congrArg (List.find? · Severity.all) (funext fun t => occursIn_said s t message.toList))

namespace Message

/-- What follows the location in the line of a message. -/
def behind (m : Message) (s : Severity) : List Char := (wordOf s).toList ++ ':' :: ' ' :: m.text.toList

theorem classify_behind (m : Message) (s : Severity) :
    classify {} (.ofList (beforeLastColon (m.behind s))) = worst s m.text :=
  classify_said s m.text

theorem behind_split (m : Message) (s : Severity) :
    m.behind s = beforeLastColon (m.behind s) ++ ':' :: afterLastColon (m.behind s) ∧
      ':' ∉ afterLastColon (m.behind s) :=
  lastColon_split (by simp [behind])

theorem behind_single (m : Message) (s : Severity) : '\n' ∉ m.behind s := by
  have word : '\n' ∉ (wordOf s).toList := fun member => (wordOf_plain s _ member).2 rfl
  simp [behind, word, m.single]

/-- The line of a message as a heading. -/
def asHeading (m : Message) (file : String) (file_single : '\n' ∉ file.toList) (line column : Nat) (s : Severity) :
    Heading where
  file := file.toList
  line := (decimal line).toList
  column := (decimal column).toList
  said := beforeLastColon (m.behind s)
  ending := afterLastColon (m.behind s)
  file_single := file_single
  line_digits := ⟨Text.decimal_ne_nil _, Text.decimal_digits _⟩
  column_digits := ⟨Text.decimal_ne_nil _, Text.decimal_digits _⟩
  spoken := by
    have front := wordOf_spoken s
    rw [behind, beforeLastColon_append]
    split
    · rw [List.head?_append]
      cases begins : (wordOf s).toList.head? with
      | none => rw [begins] at front; cases front
      | some c => rw [begins] at front; exact front
    · exact front
  said_single member := m.behind_single s ((m.behind_split s).1 ▸ List.mem_append_left _ member)
  last_colon member := (m.behind_split s).2 ((List.takeWhile_sublist _).subset member)
  settled := by
    rw [← (m.behind_split s).1, behind, relocates_word]
    exact m.settled

section

variable (m : Message) {file : String} (line column : Nat) (s : Severity)

theorem text_asHeading (file_single : '\n' ∉ file.toList) :
    (m.asHeading file file_single line column s).text = (lineOf file line column s m.text).toList := by
  have split := (m.behind_split s).1
  simp only [asHeading, Heading.text, Heading.behindFile, ← split]
  simp [lineOf, behind, locationText]

/-- The line of a message is one block. -/
theorem blocks_lineOf (file_single : '\n' ∉ file.toList) :
    blocks rules.delimiter (lineOf file line column s m.text) = [lineOf file line column s m.text] := by
  have cuts := starts_single (lineOf_single file_single m.single line column s)
  have some_text : 0 < (lineOf file line column s m.text).toList.toArray.size := by
    have colon : ':' ∈ (lineOf file line column s m.text).toList := by simp [lineOf]
    rw [List.size_toArray]
    exact List.length_pos_of_mem colon
  have whole : piecesFrom (lineOf file line column s m.text).toList.toArray 0 [] =
      [(lineOf file line column s m.text).toList] := by
    rw [piecesFrom, if_pos some_text]
    simp
  have uncut : piecesFrom (lineOf file line column s m.text).toList.toArray 0
      (starts (lineOf file line column s m.text).toList) = [(lineOf file line column s m.text).toList] := by
    rw [cuts]
    split
    · rw [piecesFrom, if_neg (Nat.lt_irrefl 0), whole]
    · exact whole
  rw [starts] at uncut
  rw [blocks, uncut, List.map_singleton, String.ofList_toList]

theorem extract_lineOf (file_single : '\n' ∉ file.toList) : rules.extract (lineOf file line column s m.text) =
    if file = "" ∨ 10 ^ digitLimit ≤ line then none
    else some ⟨file, line, if column < 10 ^ digitLimit then column else 0,
      .ofList (beforeLastColon (m.behind s)), lineOf file line column s m.text⟩ := by
  have text := m.text_asHeading line column s file_single
  have block : String.ofList (m.asHeading file file_single line column s).text = lineOf file line column s m.text := by
    rw [text, String.ofList_toList]
  by_cases unnamed : file = ""
  · have nowhere := (m.asHeading file file_single line column s).extract_unnamed (by simp [asHeading, unnamed])
      (by rw [text]; exact lineOf_single file_single m.single line column s)
    rw [block] at nowhere
    rw [nowhere, if_pos (.inl unnamed)]
  · have named : (m.asHeading file file_single line column s).file ≠ [] := by simpa [asHeading] using unnamed
    have fields := (m.asHeading file file_single line column s).extract_named named
    rw [block] at fields
    have columnValue : (if column < 10 ^ digitLimit then some (column : Int) else none).getD 0 =
        if column < 10 ^ digitLimit then (column : Int) else 0 := by
      split <;> rfl
    rw [fields]
    simp only [asHeading, Text.readInt?_decimal, String.ofList_toList, columnValue]
    by_cases short : line < 10 ^ digitLimit
    · have present : ¬ (file = "" ∨ 10 ^ digitLimit ≤ line) := by
        rintro (empty | long)
        · exact unnamed empty
        · exact absurd short (Nat.not_lt_of_le long)
      simp only [if_pos short, if_neg present, Option.map_some]
    · have absent : file = "" ∨ 10 ^ digitLimit ≤ line := .inr (Nat.le_of_not_lt short)
      simp only [if_neg short, if_pos absent, Option.map_none]

end

end Message

/-- The file, the line, the column and the severity that the default settings find in a block. -/
def fieldsIn (block : String) : Option (String × Int × Int × Severity) := do
  let rules ← (Rules.of {}).toOption
  let found ← rules.extract block
  return (found.file, found.line, found.column, classify {} found.severityText)

/-- What the line of a message says, as a block of the report on a document. -/
def placeOf (file : String) (line column : Nat) (s : Severity) (message name text : String) : Placed :=
  let block := lineOf file line column s message
  if file = "" ∨ 10 ^ digitLimit ≤ line then .issue ⟨block, .noRecord⟩
  else if file ≠ name then .other file
  else if 1 ≤ line ∧ line ≤ (Text.lines text.toList).length then
    .diagnostic ⟨lineRange text line, worst s message, block, "gcc", if column < 10 ^ digitLimit then column else 0, file⟩
  else .issue ⟨block, .line ⟨line, (Text.lines text.toList).length⟩⟩

theorem Message.fieldsIn_lineOf (m : Message) {file : String} (file_single : '\n' ∉ file.toList) (line column : Nat)
    (s : Severity) : fieldsIn (lineOf file line column s m.text) =
      if file = "" ∨ 10 ^ digitLimit ≤ line then none
      else some (file, (line : Int), if column < 10 ^ digitLimit then (column : Int) else 0, worst s m.text) := by
  rw [fieldsIn, rules_default]
  simp only [Except.toOption, Option.bind_eq_bind, Option.bind_some, m.extract_lineOf line column s file_single,
    Option.pure_def]
  split
  · rfl
  · rw [Option.bind_some, m.classify_behind]

theorem Message.report_lineOf (m : Message) {file : String} (file_single : '\n' ∉ file.toList) (line column : Nat)
    (s : Severity) (name text : String) : report {} (lineOf file line column s m.text) name text =
      .ok (.ofPlaced [placeOf file line column s m.text name text]) := by
  rw [report_of_rules rules_default, m.blocks_lineOf line column s file_single, List.map_singleton, place,
    m.extract_lineOf line column s file_single, placeOf]
  by_cases absent : file = "" ∨ 10 ^ digitLimit ≤ line
  · rw [if_pos absent, if_pos absent]
  · simp only [if_neg absent, range_ofText]
    by_cases other : file ≠ name
    · simp only [if_pos other]
    · by_cases inside : 1 ≤ line ∧ line ≤ (Text.lines text.toList).length
      · simp only [if_neg other, if_pos inside, m.classify_behind]
      · simp only [if_neg other, if_neg inside]

/-- With a location of its own that a colon comes behind, a message is taken for one about a file
whose name goes on into a beginning of the message. -/
theorem fieldsIn_relocated {file message : String} (file_single : '\n' ∉ file.toList)
    (message_single : '\n' ∉ message.toList) (relocated : relocates message.toList = true) (line column : Nat)
    (s : Severity) {fields : String × Int × Int × Severity}
    (found : fieldsIn (lineOf file line column s message) = some fields) :
    ∃ front : String, front.toList <+: message.toList ∧ fields.1 = lineOf file line column s front := by
  have split (rest : String) : (lineOf file line column s rest).toList =
      (lineOf file line column s "").toList ++ rest.toList := by
    simp [lineOf]
  have single := lineOf_single file_single message_single line column s
  have some_front : (lineOf file line column s "").toList ≠ [] := by simp [lineOf]
  rw [fieldsIn, rules_default] at found
  simp only [Except.toOption, Option.bind_eq_bind, Option.bind_some, Option.bind_eq_some_iff, Option.pure_def,
    Option.some.injEq] at found
  obtain ⟨r, extracted, rfl⟩ := found
  rw [← String.ofList_toList (s := lineOf file line column s message), split] at extracted
  obtain ⟨more, start, named⟩ := file_relocated (split message ▸ single) some_front relocated extracted
  refine ⟨.ofList more, by rwa [String.toList_ofList], named.trans (String.toList_injective ?_)⟩
  rw [split (.ofList more), String.toList_ofList, String.toList_ofList]

/-- A message has no say in the file, the line and the column, which are those in front of it, and
its severity is the worst of the one in front and those it names before its last colon. This does
not hold of a message with a location of its own that a colon comes behind: whatever file is found
then, its name goes on into a beginning of the message. -/
theorem message_fields {file message : String} (file_single : '\n' ∉ file.toList)
    (message_single : '\n' ∉ message.toList) (line column : Nat) (s : Severity) (name text : String) :
    (relocates message.toList = false →
      fieldsIn (lineOf file line column s message) =
          (if file = "" ∨ 10 ^ digitLimit ≤ line then none
          else some (file, (line : Int), if column < 10 ^ digitLimit then (column : Int) else 0, worst s message)) ∧
        report {} (lineOf file line column s message) name text =
          .ok (.ofPlaced [placeOf file line column s message name text])) ∧
    (relocates message.toList = true → ∀ fields, fieldsIn (lineOf file line column s message) = some fields →
      ∃ front : String, front.toList <+: message.toList ∧ fields.1 = lineOf file line column s front) := by
  constructor
  · intro settled
    exact ⟨Message.fieldsIn_lineOf ⟨message, message_single, settled⟩ file_single line column s,
      Message.report_lineOf ⟨message, message_single, settled⟩ file_single line column s name text⟩
  · exact fun relocated fields => fieldsIn_relocated file_single message_single relocated line column s

/-- A warning about the document stays a warning about the document, with a message that has a colon
and no word of a worse severity before it. -/
theorem message_fields_quiet :
    '\n' ∉ "foo.c".toList ∧ '\n' ∉ "unused variable: x is an error".toList ∧
      relocates "unused variable: x is an error".toList = false ∧
      fieldsIn "foo.c:2:5: warning: unused variable: x is an error" = some ("foo.c", 2, 5, .warning) ∧
      ∃ r, report {} "foo.c:2:5: warning: unused variable: x is an error" "foo.c" "a\nb\n" = .ok r ∧
        r.diagnostics.map (·.severity) = [.warning] ∧ r.filtered = 0 ∧ r.issues = [] := by
  have single : '\n' ∉ "foo.c".toList := by decide
  have message_single : '\n' ∉ "unused variable: x is an error".toList := by decide
  have settled : relocates "unused variable: x is an error".toList = false := by decide
  have whole : lineOf "foo.c" 2 5 .warning "unused variable: x is an error" =
      "foo.c:2:5: warning: unused variable: x is an error" := by decide
  have short (n : Nat) (small : n < 10) : n < 10 ^ digitLimit := short_of_lt small
  have present : ¬ ("foo.c" = "" ∨ 10 ^ digitLimit ≤ 2) := by
    rintro (empty | long)
    · exact absurd empty (by decide)
    · exact absurd (short 2 (by decide)) (Nat.not_lt_of_le long)
  obtain ⟨fields, reported⟩ := (message_fields single message_single 2 5 .warning "foo.c" "a\nb\n").1 settled
  rw [whole, if_neg present, if_pos (short 5 (by decide))] at fields
  rw [whole, placeOf, if_neg present] at reported
  refine ⟨single, message_single, settled, fields.trans (by decide), _, reported, ?_⟩
  decide +kernel

/-- Words before the last colon of a message count, and so does a location that a colon comes
behind: with other messages, a warning is an error, and another file is named. -/
theorem message_counts :
    fieldsIn (lineOf "a.c" 1 1 .warning "x") = some ("a.c", 1, 1, .warning) ∧
      fieldsIn (lineOf "a.c" 1 1 .warning "unknown error: x") = some ("a.c", 1, 1, .error) ∧
      fieldsIn (lineOf "a.c" 1 1 .warning "see b.c:3:4: y: z") = some ("a.c:1:1: warning: see b.c", 3, 4, .error) ∧
      ¬ ∀ (file first second : String) (line column : Nat) (s : Severity), ':' ∉ file.toList → '\n' ∉ file.toList →
        '\n' ∉ first.toList → '\n' ∉ second.toList →
          fieldsIn (lineOf file line column s first) = fieldsIn (lineOf file line column s second) := by
  have plain : fieldsIn (lineOf "a.c" 1 1 .warning "x") = some ("a.c", 1, 1, .warning) := by decide +kernel
  have worse : fieldsIn (lineOf "a.c" 1 1 .warning "unknown error: x") = some ("a.c", 1, 1, .error) := by
    decide +kernel
  refine ⟨plain, worse, by decide +kernel, fun alike => ?_⟩
  have same := alike "a.c" "x" "unknown error: x" 1 1 .warning (by decide) (by decide) (by decide) (by decide)
  rw [plain, worse] at same
  cases same

end Gcc

end Diagnosis
