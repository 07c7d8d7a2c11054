import Mathlib.Data.List.DropRight
import Diagnosis.Diagnostic

/-!
# Heads

What stands for a message in one line is the first line of it without the blanks around
it. Every line end is a blank, so that there is such a line unless the whole message is
blank, and it begins with something that can be seen.
-/

namespace Diagnosis

namespace Text

variable {cs : List Char}

/-! ## Blanks around a text -/

/-- All of a text is blank. -/
def IsBlank (cs : List Char) : Prop := ∀ c ∈ cs, isBlank c = true

instance (cs : List Char) : Decidable (IsBlank cs) := inferInstanceAs (Decidable (∀ c ∈ cs, isBlank c = true))

/-- A text has no blanks at its ends. -/
structure Trimmed (cs : List Char) : Prop where
  first : ∀ c, cs.head? = some c → isBlank c = false
  last : ∀ c, cs.getLast? = some c → isBlank c = false

theorem trimEnd_eq (cs : List Char) : trimEnd cs = cs.rdropWhile isBlank := rfl

theorem head?_trimStart {c : Char} (first : (trimStart cs).head? = some c) : isBlank c = false := by
  have found := List.head?_dropWhile_not isBlank cs
  rw [trimStart] at first
  rw [first] at found
  simpa using found

/-- A text without the blanks at its back begins as it does, unless nothing is left. -/
theorem head?_trimEnd {c : Char} (first : (trimEnd cs).head? = some c) : cs.head? = some c := by
  obtain ⟨back, same⟩ := List.rdropWhile_prefix isBlank cs
  rw [← same, List.head?_append, ← trimEnd_eq, first]
  rfl

theorem getLast?_trimEnd {c : Char} (last : (trimEnd cs).getLast? = some c) : isBlank c = false := by
  rw [trimEnd_eq, List.getLast?_eq_some_iff] at last
  obtain ⟨front, same⟩ := last
  have filled : cs.rdropWhile isBlank ≠ [] := by simp [same]
  have seen := List.rdropWhile_last_not isBlank cs filled
  simpa [same] using seen

theorem trimmed_trim (cs : List Char) : Trimmed (trim cs) where
  first _ first := head?_trimStart (head?_trimEnd first)
  last _ last := getLast?_trimEnd last

/-- What is cut off a text on either side is blank. -/
theorem trim_between (cs : List Char) :
    ∃ front back, cs = front ++ trim cs ++ back ∧ IsBlank front ∧ IsBlank back := by
  refine ⟨cs.takeWhile isBlank, (trimStart cs).rtakeWhile isBlank, ?_, ?_, ?_⟩
  · rw [List.append_assoc, trim, trimEnd_eq, List.rdropWhile_append_rtakeWhile, trimStart,
      List.takeWhile_append_dropWhile]
  · exact fun _ => List.mem_takeWhile_imp
  · exact fun _ => List.mem_rtakeWhile_imp

/-- Nothing is left of a text just if all of it is blank. -/
theorem trim_eq_nil_iff : trim cs = [] ↔ IsBlank cs := by
  rw [trim, trimEnd_eq, List.rdropWhile_eq_nil_iff, trimStart]
  constructor
  · intro rest c member
    rw [← List.takeWhile_append_dropWhile (p := isBlank) (l := cs), List.mem_append] at member
    rcases member with before | after
    · exact List.mem_takeWhile_imp before
    · exact rest c after
  · exact fun blank c member => blank c ((List.dropWhile_sublist isBlank).subset member)

/-! ## The lines of a message -/

/-- The lines of a message, each without what ends it. A carriage return and a line feed after it
end one line, and nothing follows the last end. -/
def messageLines : List Char → List (List Char)
  | [] => []
  | '\r' :: '\n' :: rest => [] :: messageLines rest
  | c :: rest =>
    if isLineEnd c then [] :: messageLines rest else
    match messageLines rest with
    | [] => [[c]]
    | l :: ls => (c :: l) :: ls

/-- The first line goes to the first line end. Only a text without characters has no lines. -/
theorem getElem?_messageLines_zero (cs : List Char) :
    (messageLines cs)[0]? = if cs = [] then none else some (cs.takeWhile (! isLineEnd ·)) := by
  fun_induction messageLines cs with
  | case1 => rfl
  | case2 rest ih => rfl
  | case3 c rest other ends ih => simp [ends]
  | case4 c rest other goesOn none ih =>
    have last : rest = [] := by
      by_contra more
      rw [none, if_neg more] at ih
      cases ih
    subst last
    simp [goesOn]
  | case5 c rest other goesOn l ls more ih =>
    rw [more] at ih
    have longer : rest ≠ [] := by
      rintro rfl
      cases ih
    rw [if_neg longer] at ih
    cases ih
    simp [goesOn]

/-! ## Heads -/

/-- A text has a head: the first of its lines without the blanks around the text, which there is unless
the text is blank. It begins with something that is no blank, and no line ends in it. -/
structure HasHead (cs head : List Char) : Prop where
  found : ∃ front stripped back, cs = front ++ stripped ++ back ∧ IsBlank front ∧ IsBlank back ∧ Trimmed stripped ∧
    (stripped = [] ↔ IsBlank cs) ∧ (messageLines stripped)[0]? = if IsBlank cs then none else some head
  eq_nil_iff : head = [] ↔ IsBlank cs
  seen : ∀ c, head.head? = some c → isBlank c = false
  unbroken : ∀ c ∈ head, isLineEnd c = false

/-- A text without blanks at its ends does not begin with a line end. -/
theorem Trimmed.takeWhile_eq_nil_iff (trimmed : Trimmed cs) : cs.takeWhile (! isLineEnd ·) = [] ↔ cs = [] := by
  cases cs with
  | nil => simp
  | cons c rest =>
    have visible := trimmed.first c rfl
    have goesOn : isLineEnd c = false := by
      by_contra ends
      rw [isBlank_of_isLineEnd (eq_true_of_ne_false ends)] at visible
      cases visible
    simp [goesOn]

theorem hasHead_head (cs : List Char) : HasHead cs (head cs) where
  found := by
    obtain ⟨front, back, whole, before, after⟩ := trim_between cs
    refine ⟨front, trim cs, back, whole, before, after, trimmed_trim cs, trim_eq_nil_iff, ?_⟩
    rw [getElem?_messageLines_zero]
    simp only [trim_eq_nil_iff]
    rfl
  eq_nil_iff := (trimmed_trim cs).takeWhile_eq_nil_iff.trans trim_eq_nil_iff
  seen c first := by
    refine (trimmed_trim cs).first c ?_
    obtain ⟨rest, same⟩ := List.takeWhile_prefix (l := trim cs) (! isLineEnd ·)
    rw [← same, List.head?_append]
    rw [head] at first
    rw [first]
    rfl
  unbroken c member := by
    have goesOn := List.mem_takeWhile_imp member
    simpa using goesOn

end Text

open Text (HasHead IsBlank hasHead_head)

/-- The summary of a diagnostic is the head of its message. An issue is described by its reason and the
head of its block, or, exactly if the block is blank, by its reason and a mark in place of the head; so
is any block with any reason. -/
theorem heads_total (d : Diagnostic) (i : Issue) :
    HasHead d.message.toList d.summary.toList ∧
    ∃ head : String, HasHead i.block.toList head.toList ∧
      i.describe = i.reason.message ++ ": " ++ (if IsBlank i.block.toList then "<blank block>" else head) ∧
      ∀ reason, describeIssue reason i.block =
        reason ++ ": " ++ (if IsBlank i.block.toList then "<blank block>" else head) := by
  have whole (s : String) : HasHead s.toList (headOf s).toList := by
    rw [headOf, String.toList_ofList]
    exact hasHead_head s.toList
  have blank : (headOf i.block).isEmpty = true ↔ IsBlank i.block.toList := by
    rw [String.isEmpty_iff, ← String.toList_eq_nil_iff]
    exact (whole i.block).eq_nil_iff
  have described (reason : String) : describeIssue reason i.block =
      reason ++ ": " ++ (if IsBlank i.block.toList then "<blank block>" else headOf i.block) := by
    rw [describeIssue]
    simp only [blank]
  exact ⟨whole d.message, headOf i.block, whole i.block, described i.reason.message, described⟩

/-- Blanks around the text go, and those in front of the first line end stay. -/
example : describeIssue "no record" "\n\t a b \r\n c" = "no record: a b " := by decide +kernel

end Diagnosis
