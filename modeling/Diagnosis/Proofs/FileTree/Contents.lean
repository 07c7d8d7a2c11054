import Diagnosis.Proofs.FileTree.Resolve

/-!
# Changes of contents

Two trees with the same links and directories may differ in what files hold and in which
files there are. Paths resolve in one as in the other: the steps that resolving takes are
bounded by the links that it has not gone through yet, and no step looks at a file.
-/

namespace Diagnosis.FileTree

variable {depth : Nat}

/-! ## The steps are enough -/

/-- A place has not been met yet as it is written here. -/
def unmet (seen : Seen depth) (place : List String) (unwritten : Option (Fin (depth + 1))) : Bool :=
  (seen.lookup ⟨place, unwritten⟩).isNone

/-- In how many ways a place may be written that it has not been met in yet. -/
def waysLeft (seen : Seen depth) (place : List String) : Nat := (writings depth).countP (unmet seen place)

/-- The steps for the links as far as they have not been come to yet. -/
def stepsLeft (seen : Seen depth) : List (List String × Entry) → Nat
  | [] => 0
  | (place, .link target) :: rest => waysLeft seen place * ((rawPieces target).length + 1) + stepsLeft seen rest
  | _ :: rest => stepsLeft seen rest

variable {t t' : FileTree} {seen : Seen depth} {errands : List (Errand depth)} {place : List String}
  {spot : Spot depth}

theorem waysLeft_nil (place : List String) : waysLeft ([] : Seen depth) place = (writings depth).length :=
  List.countP_eq_length.mpr fun _ _ => rfl

theorem stepsFor_eq (t : FileTree) (depth : Nat) (pieces : List String) :
    t.stepsFor depth pieces = pieces.length + 1 + stepsLeft ([] : Seen depth) t.entries := by
  unfold stepsFor
  generalize pieces.length + 1 = n
  induction t.entries generalizing n with
  | nil => rfl
  | cons first rest ih =>
    obtain ⟨place, bytes | _ | target⟩ := first
    · exact ih n
    · exact ih n
    · rw [List.foldl_cons, ih, stepsLeft, waysLeft_nil, Nat.add_assoc]

theorem mem_writings (unwritten : Option (Fin (depth + 1))) : unwritten ∈ writings depth := by
  cases unwritten with
  | none => exact List.mem_cons_self
  | some n => exact List.mem_cons_of_mem _ (List.mem_map_of_mem (List.mem_finRange n))

theorem unmet_of_cons {link : Spot depth} {led : Option (Spot depth)} {unwritten : Option (Fin (depth + 1))}
    (new : unmet ((link, led) :: seen) place unwritten) : unmet seen place unwritten := by
  unfold unmet at new
  rw [List.lookup_cons] at new
  split at new
  · cases new
  · exact new

theorem waysLeft_cons_le (link : Spot depth) (led : Option (Spot depth)) (place : List String) :
    waysLeft ((link, led) :: seen) place ≤ waysLeft seen place :=
  List.countP_mono_left fun _ _ => unmet_of_cons

/-- The way that a new spot is written in is left no more. -/
theorem waysLeft_cons_lt (led : Option (Spot depth)) (unknown : seen.lookup spot = none) :
    waysLeft ((spot, led) :: seen) spot.place < waysLeft seen spot.place := by
  have fewer (ways : List (Option (Fin (depth + 1)))) :
      ways.countP (unmet ((spot, led) :: seen) spot.place) ≤ ways.countP (unmet seen spot.place) :=
    List.countP_mono_left fun _ _ => unmet_of_cons
  have met : ¬ unmet ((spot, led) :: seen) spot.place spot.unwritten := by
    unfold unmet
    rw [List.lookup_cons, beq_self_eq_true]
    exact Bool.false_ne_true
  have new : unmet seen spot.place spot.unwritten := Option.isNone_iff_eq_none.mpr unknown
  obtain ⟨before, after, split⟩ := List.append_of_mem (mem_writings spot.unwritten)
  unfold waysLeft
  rw [split, List.countP_append, List.countP_append, List.countP_cons_of_neg met, List.countP_cons_of_pos new]
  exact Nat.add_lt_add_of_le_of_lt (fewer before) (Nat.lt_succ_of_le (fewer after))

/-- A link that has been come to leaves no more steps for the others. -/
theorem stepsLeft_cons_le (link : Spot depth) (led : Option (Spot depth)) (entries : List (List String × Entry)) :
    stepsLeft ((link, led) :: seen) entries ≤ stepsLeft seen entries := by
  induction entries with
  | nil => exact Nat.le_refl 0
  | cons first rest ih =>
    obtain ⟨place, bytes | _ | target⟩ := first
    · exact ih
    · exact ih
    · exact Nat.add_le_add (Nat.mul_le_mul_right _ (waysLeft_cons_le link led place)) ih

/-- The steps for a link are taken from those that are left when it is first come to as it is written. -/
theorem stepsLeft_cons_lt {target : String} {entries : List (List String × Entry)}
    (there : (spot.place, .link target) ∈ entries) (unknown : seen.lookup spot = none) :
    stepsLeft ((spot, none) :: seen) entries + (rawPieces target).length + 1 ≤ stepsLeft seen entries := by
  induction entries with
  | nil => cases there
  | cons first rest ih =>
    rcases List.mem_cons.mp there with rfl | later
    · have others : stepsLeft ((spot, none) :: seen) rest ≤ stepsLeft seen rest := stepsLeft_cons_le spot none rest
      have fewer := Nat.mul_le_mul_right ((rawPieces target).length + 1) (waysLeft_cons_lt none unknown)
      rw [Nat.succ_mul] at fewer
      rw [stepsLeft, stepsLeft]
      omega
    · have fewer := ih later
      obtain ⟨place, bytes | _ | other⟩ := first
      · exact fewer
      · exact fewer
      · have ways : waysLeft ((spot, none) :: seen) place ≤ waysLeft seen place := waysLeft_cons_le spot none place
        have fewerHere := Nat.mul_le_mul_right ((rawPieces other).length + 1) ways
        rw [stepsLeft, stepsLeft]
        omega

theorem mem_entries_of_link {target : String} (linked : t.entry? place = some (.link target)) :
    (place, .link target) ∈ t.entries := by
  unfold entry? at linked
  split at linked
  · cases linked
  · obtain ⟨before, after, whole, _⟩ := List.lookup_eq_some_iff.mp linked
    rw [whole]
    exact List.mem_append_right _ List.mem_cons_self

/-- One step more than enough changes nothing. -/
theorem follow_succ {fuel : Nat} (enough : errands.length + stepsLeft seen t.entries ≤ fuel) :
    t.follow (fuel + 1) seen spot errands = t.follow fuel seen spot errands := by
  induction fuel generalizing seen spot errands with
  | zero =>
    have none_left : errands = [] := List.eq_nil_of_length_eq_zero (by omega)
    rw [none_left, follow_nil, follow_nil]
  | succ fuel ih =>
    cases errands with
    | nil => rw [follow_nil, follow_nil]
    | cons errand rest =>
      rw [List.length_cons] at enough
      cases errand with
      | done link =>
        have fewer : stepsLeft ((link, some spot) :: seen) t.entries ≤ stepsLeft seen t.entries :=
          stepsLeft_cons_le link (some spot) t.entries
        rw [follow, follow]
        exact ih (by omega)
      | piece name =>
        have later : rest.length + stepsLeft seen t.entries ≤ fuel := by omega
        rw [follow, follow]
        split
        · exact ih later
        · split
          · exact ih later
          · dsimp only
            split
            · rename_i target linked
              split
              · exact ih later
              · rfl
              · rename_i unknown
                have fewer := stepsLeft_cons_lt (mem_entries_of_link linked) unknown
                refine ih ?_
                rw [List.length_append, List.length_map, List.length_cons]
                omega
            · exact ih later

/-- All that is more than enough changes nothing. -/
theorem follow_enough {few many : Nat} (more : few ≤ many)
    (enough : errands.length + stepsLeft seen t.entries ≤ few) :
    t.follow many seen spot errands = t.follow few seen spot errands := by
  induction more with
  | refl => rfl
  | step more ih => rw [follow_succ (Nat.le_trans enough more), ih]

/-! ## Trees of one shape -/

/-- No path goes on from here: there is a file, or nothing. -/
def Final (e : Option Entry) : Prop := e = none ∨ ∃ bytes, e = some (.file bytes)

/-- Two trees have the same links and directories. -/
def SameShape (t t' : FileTree) : Prop :=
  ∀ place, t'.entry? place = t.entry? place ∨ Final (t.entry? place) ∧ Final (t'.entry? place)

theorem follow_shape (shape : SameShape t t') (fuel : Nat) :
    t'.follow fuel seen spot errands = t.follow fuel seen spot errands := by
  induction fuel generalizing seen spot errands with
  | zero => rw [follow, follow]
  | succ fuel ih =>
    cases errands with
    | nil => rw [follow_nil, follow_nil]
    | cons errand rest =>
      cases errand with
      | done link => rw [follow, follow, ih]
      | piece name =>
        rw [follow, follow]
        dsimp only
        split
        · exact ih
        · split
          · exact ih
          · rcases shape (spot.down name).place with same | ⟨final, final'⟩
            · rw [same]
              split
              · split
                · exact ih
                · rfl
                · exact ih
              · exact ih
            · have unlinked {e : Option Entry} (final : Final e) (target : String) : e ≠ some (.link target) := by
                rcases final with rfl | ⟨bytes, rfl⟩ <;> simp
              split
              · exact absurd ‹_› (unlinked final' _)
              · split
                · exact absurd ‹_› (unlinked final _)
                · exact ih

/-- Going down has come to its end, and not to a link. -/
def Descent.Ended : Descent → Prop
  | .arrived _ _ | .blocked .notFound | .blocked .notDirectory => True
  | _ => False

theorem descend_ended {piece : String} (named : ¬ (piece = "" ∨ piece = ".")) (down : piece ≠ "..")
    (final : Final (t.entry? (place ++ [piece]))) (last : Bool) (rest : List String) :
    (t.descend last place (piece :: rest)).Ended := by
  rw [descend, if_neg named, if_neg down]
  dsimp only
  rcases final with absent | ⟨bytes, present⟩
  · rw [absent]
    dsimp only
    split <;> trivial
  · rw [present]
    dsimp only
    split <;> trivial

/-- Going down comes to the same link in both trees, or to its end in both. -/
theorem descend_shape (shape : SameShape t t') (last : Bool) (directory pieces : List String) :
    (∃ within target rest, t.descend last directory pieces = .linked within target rest ∧
      t'.descend last directory pieces = .linked within target rest) ∨
    (t.descend last directory pieces).Ended ∧ (t'.descend last directory pieces).Ended := by
  induction pieces generalizing directory with
  | nil => exact .inr ⟨trivial, trivial⟩
  | cons piece rest ih =>
    by_cases blank : piece = "" ∨ piece = "."
    · rw [descend, descend, if_pos blank, if_pos blank]
      exact ih directory
    · by_cases up : piece = ".."
      · rw [descend, descend, if_neg blank, if_neg blank, if_pos up, if_pos up]
        exact ih directory.dropLast
      · rcases shape (directory ++ [piece]) with same | ⟨final, final'⟩
        · rw [descend, descend, if_neg blank, if_neg blank, if_neg up, if_neg up]
          dsimp only
          rw [same]
          split
          · split <;> exact .inr ⟨trivial, trivial⟩
          · exact ih (directory ++ [piece])
          · split <;> exact .inr ⟨trivial, trivial⟩
          · split
            · exact .inr ⟨trivial, trivial⟩
            · exact .inl ⟨_, _, _, rfl, rfl⟩
        · exact .inr ⟨descend_ended blank up final last rest, descend_ended blank up final' last rest⟩

theorem walk_of_ended {last : Bool} {links : Nat} {directory pieces : List String}
    (ended : (t.descend last directory pieces).Ended) : t.walk last links directory pieces ≠ .error .tooManyLinks := by
  unfold walk
  cases went : t.descend last directory pieces with
  | arrived there e => rintro ⟨⟩
  | linked within target rest =>
    rw [went] at ended
    cases ended
  | blocked fault =>
    rw [went] at ended
    rintro ⟨⟩
    cases ended

theorem walk_shape (shape : SameShape t t') (last : Bool) (links : Nat) (directory pieces : List String) :
    t'.walk last links directory pieces = .error .tooManyLinks ↔
      t.walk last links directory pieces = .error .tooManyLinks := by
  induction links generalizing directory pieces with
  | zero =>
    rcases descend_shape shape last directory pieces with ⟨within, target, rest, went, went'⟩ | ⟨ended, ended'⟩
    · rw [walk, walk, went, went']
    · exact ⟨fun many => absurd many (walk_of_ended ended'), fun many => absurd many (walk_of_ended ended)⟩
  | succ links ih =>
    rcases descend_shape shape last directory pieces with ⟨within, target, rest, went, went'⟩ | ⟨ended, ended'⟩
    · rw [walk, walk, went, went']
      exact ih ..
    · exact ⟨fun many => absurd many (walk_of_ended ended'), fun many => absurd many (walk_of_ended ended)⟩

/-- A path resolves alike in trees with the same links and directories. -/
theorem resolve_shape (shape : SameShape t t') (directory : List String) (path : String) :
    t'.resolve directory path = t.resolve directory path := by
  have follows (pieces : List String) (start : Spot directory.length) :
      t'.follow (t'.stepsFor directory.length pieces) [] start (pieces.map .piece) =
        t.follow (t.stepsFor directory.length pieces) [] start (pieces.map .piece) := by
    let errands : List (Errand directory.length) := pieces.map .piece
    have steps (t : FileTree) : errands.length + stepsLeft ([] : Seen directory.length) t.entries ≤
        t.stepsFor directory.length pieces := by
      rw [stepsFor_eq, List.length_map]
      omega
    have enough : t.follow _ [] start errands = _ :=
      follow_enough (Nat.le_max_left _ (t'.stepsFor directory.length pieces)) (steps t)
    have enough' : t'.follow _ [] start errands = _ :=
      follow_enough (Nat.le_max_right (t.stepsFor directory.length pieces) _) (steps t')
    rw [← enough, ← enough', follow_shape shape]
  have loops (resolved : String) : t'.locate true directory resolved = .error .tooManyLinks ↔
      t.locate true directory resolved = .error .tooManyLinks := by
    unfold locate
    split
    · simp
    · exact walk_shape shape ..
  unfold resolve
  split
  · rfl
  · dsimp only
    rw [follows]
    generalize Path.normalize _ = resolved
    by_cases looped : t.locate true directory resolved = .error .tooManyLinks
    · rw [looped, (loops resolved).mpr looped]
    · have free := fun looped' => looped ((loops resolved).mp looped')
      split
      · exact absurd ‹_› free
      · rfl

end Diagnosis.FileTree
