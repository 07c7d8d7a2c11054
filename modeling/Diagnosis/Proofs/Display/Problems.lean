import Diagnosis.Display.Problems
import Diagnosis.Proofs.Text.Sorted

/-!
# The table is a function of the sets

Whatever sets have come, and in whatever order, the table shows the last one of each
address: those that are not empty, by address, a row for each diagnostic.
-/

namespace Diagnosis.Display

/-- A row tells the severity of its diagnostic. -/
def isRowOf (severity : Severity) (row : List Cell) : Bool :=
  match row with
  | [_, _, _, shown, _] => shown == .styled (severityText severity)
  | _ => false

theorem severityText_injective {s s' : Severity} (same : severityText s = severityText s') : s = s' := by
  cases s <;> cases s' <;> first | rfl | exact absurd same (by decide +kernel)

namespace Problems

open Text (sorted mem_sorted pairwise_sorted sorted_congr)

/-! ## One more set -/

/-- No set is empty, and the rows are those of the sets. -/
structure Kept (p : Problems) : Prop where
  filled : ∀ uri ds, p.sets.get? uri = some ds → ds ≠ []
  rows : p.rows = (p.rowsOf (sorted p.sets.keys)).1

theorem kept_mount : Kept (mount {}) where
  filled uri ds found := by cases found
  rows := rfl

theorem setOf_set (p : Problems) (uri : String) (ds : List Diagnostic) (other : String) :
    (p.set uri ds).1.setOf other = if uri = other then ds else p.setOf other := by
  have sets : (p.set uri ds).1.sets = if ds.isEmpty then p.sets.erase uri else p.sets.put uri ds := rfl
  unfold setOf
  rw [sets]
  by_cases here : uri = other
  · subst here
    rw [if_pos rfl]
    cases ds with
    | nil =>
      rw [if_pos List.isEmpty_nil, Keyed.get?_erase_self]
      rfl
    | cons d rest =>
      rw [if_neg (by simp), Keyed.get?_put_self]
      rfl
  · rw [if_neg here]
    split
    · rw [Keyed.get?_erase_of_ne (Ne.symm here)]
    · rw [Keyed.get?_put_of_ne (Ne.symm here)]

theorem rowsOf_cons (p : Problems) (uri : String) (rest : List String) :
    p.rowsOf (uri :: rest) = match Uri.toPath uri with
      | .error e => ([], some e)
      | .ok path => ((p.setOf uri).map (rowOf (fileName path)) ++ (p.rowsOf rest).1, (p.rowsOf rest).2) := by
  rfl

theorem rowsOf_congr {p q : Problems} (same : q.sets = p.sets) (uris : List String) : q.rowsOf uris = p.rowsOf uris := by
  induction uris with
  | nil => rfl
  | cons uri rest ih => rw [rowsOf_cons, rowsOf_cons, ih, setOf, setOf, same]

theorem Kept.set {p : Problems} (kept : Kept p) (uri : String) (ds : List Diagnostic) : Kept (p.set uri ds).1 where
  filled other ds' found := by
    have sets : (p.set uri ds).1.sets = if ds.isEmpty then p.sets.erase uri else p.sets.put uri ds := rfl
    rw [sets] at found
    split at found
    · exact kept.filled other ds' (Keyed.get?_of_get?_erase found)
    · rename_i some_diagnostic
      by_cases here : other = uri
      · subst here
        rw [Keyed.get?_put_self, Option.some.injEq] at found
        rintro rfl
        rw [found] at some_diagnostic
        exact some_diagnostic rfl
      · rw [Keyed.get?_put_of_ne here] at found
        exact kept.filled other ds' found
  rows :=
    (congrArg Prod.fst (rowsOf_congr (p := { p with sets := (p.set uri ds).1.sets }) (q := (p.set uri ds).1) rfl _)).symm

/-- An address is listed if there is a set under it that is not empty. -/
theorem Kept.mem_keys {p : Problems} (kept : Kept p) (uri : String) : uri ∈ p.sets.keys ↔ p.setOf uri ≠ [] := by
  rw [Keyed.mem_keys_iff, setOf]
  cases found : p.sets.get? uri with
  | none => simp
  | some ds => simp [kept.filled uri ds found]

/-! ## The rows of readable addresses -/

/-- The name of the file at an address. -/
def nameAt (uri : String) : String :=
  match Uri.toPath uri with
  | .ok path => fileName path
  | .error _ => ""

theorem nameAt_of_toPath {uri path : String} (found : Uri.toPath uri = .ok path) : nameAt uri = fileName path := by
  unfold nameAt
  rw [found]

/-- The row of each diagnostic of some sets. -/
def rowsAt (sets : String → List Diagnostic) (uris : List String) : List (List Cell) :=
  uris.flatMap fun uri => (sets uri).map (rowOf (nameAt uri))

theorem rowsAt_cons (sets : String → List Diagnostic) (uri : String) (rest : List String) :
    rowsAt sets (uri :: rest) = (sets uri).map (rowOf (nameAt uri)) ++ rowsAt sets rest := List.flatMap_cons

theorem rowsOf_readable (p : Problems) {uris : List String}
    (readable : ∀ uri ∈ uris, ∃ path, Uri.toPath uri = .ok path) : p.rowsOf uris = (rowsAt p.setOf uris, none) := by
  induction uris with
  | nil => rfl
  | cons uri rest ih =>
    obtain ⟨path, found⟩ := readable uri List.mem_cons_self
    rw [rowsOf_cons, found, ih fun other later => readable other (List.mem_cons_of_mem _ later), rowsAt_cons,
      nameAt_of_toPath found]

/-- A set is taken in without complaint if all addresses can be read. -/
theorem set_readable {p : Problems} {uri : String} {ds : List Diagnostic}
    (readable : ∀ other ∈ (p.set uri ds).1.sets.keys, ∃ path, Uri.toPath other = .ok path) :
    (p.set uri ds).2 = none := by
  have inside : ∀ other ∈ sorted (p.set uri ds).1.sets.keys, ∃ path, Uri.toPath other = .ok path :=
    fun other member => readable other (mem_sorted.mp member)
  exact congrArg Prod.snd (rowsOf_readable { p with sets := (p.set uri ds).1.sets } inside)

/-! ## What is shown of some sets -/

/-- The addresses among some that have diagnostics, in order. -/
def troubled (sets : String → List Diagnostic) (uris : List String) : List String :=
  sorted (uris.filter fun uri => ! (sets uri).isEmpty)

theorem mem_troubled {sets : String → List Diagnostic} {uris : List String} {uri : String} :
    uri ∈ troubled sets uris ↔ uri ∈ uris ∧ sets uri ≠ [] := by
  simp [troubled, mem_sorted]

/-- Only which sets there are decides what is troubled, if no address with diagnostics is left out. -/
theorem troubled_congr {sets sets' : String → List Diagnostic} {uris uris' : List String}
    (same : ∀ uri, sets uri = sets' uri) (all : ∀ uri, sets uri ≠ [] → uri ∈ uris)
    (allToo : ∀ uri, sets' uri ≠ [] → uri ∈ uris') : troubled sets uris = troubled sets' uris' := by
  refine Text.eq_of_ascends (pairwise_sorted _) (pairwise_sorted _) fun uri => ?_
  rw [mem_troubled, mem_troubled, same]
  exact ⟨fun both => ⟨allToo uri both.2, both.2⟩, fun both => ⟨all uri (same uri ▸ both.2), both.2⟩⟩

theorem Kept.sorted_keys {p : Problems} (kept : Kept p) : sorted p.sets.keys = troubled p.setOf p.sets.keys := by
  refine sorted_congr fun uri => ?_
  rw [List.mem_filter, kept.mem_keys]
  simp

/-- The rows that tell a severity are as many as the diagnostics that have it. -/
theorem countP_rowsAt (severity : Severity) (sets : String → List Diagnostic) (uris : List String) :
    (rowsAt sets uris).countP (isRowOf severity) = countOf (uris.flatMap sets) severity := by
  have row (file : String) (d : Diagnostic) : isRowOf severity (rowOf file d) = (d.severity == severity) := by
    change (Cell.styled (severityText d.severity) == Cell.styled (severityText severity)) = _
    rw [Bool.eq_iff_iff, beq_iff_eq, beq_iff_eq, Cell.styled.injEq]
    exact ⟨severityText_injective, fun same => by rw [same]⟩
  induction uris with
  | nil => rfl
  | cons uri rest ih =>
    unfold countOf at ih ⊢
    rw [rowsAt_cons, List.countP_append, ih, List.flatMap_cons, List.countP_append, List.countP_map]
    simp only [Function.comp_def, row]

end Problems

end Diagnosis.Display
