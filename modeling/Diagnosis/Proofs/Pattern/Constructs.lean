import Diagnosis.Proofs.Pattern.Pieces

/-!
# Groups and looks with a parenthesis after the text

What stands in parentheses is read the same way in both readings: the parenthesis
that closes it must be one of the text, so the reading of the text alone stops at
a fault where the other takes the parenthesis after it. Only a comment up to the
end of its line may go on to the end of the text. Options that hold everywhere are
read in both, but may not be set in the middle of a pattern.
-/

namespace Diagnosis.Pattern

open Reader

variable {n : Nat}

/-! ## Options -/

section
variable {lax : Bool}

theorem tracks_flagAfter {β : Type} {escape : β → Prop} (closing : List Char) (missing : Fault)
    {k k' : Char ⊕ Flag → Reader β} (second : ∀ r, Tracks escape lax (n - 1) (k r) (k' r)) :
    Tracks escape lax n (flagAfter closing missing >>= k) (flagAfter closing missing >>= k') := by
  unfold flagAfter
  rw [bind_assoc, bind_assoc]
  refine tracks_take_some ((fails_fail _ _).bind _) ((fails_fail _ _).bind _) fun t => Tracks.bind ?_ second
  cases t with
  | escaped c => exact tracks_fail _ _ _
  | plain c =>
    refine tracks_ite (tracks_pure _) ?_
    cases Flag.of? c with
    | some f => exact tracks_pure _
    | none => exact tracks_fail _ _ _

theorem tracks_readFlagsOn {escape : List Flag × Char → Prop} {fuel fuel' : Nat} (enough : n ≤ fuel)
    (enough' : n ≤ fuel') (flag : Flag) (read : List Flag) :
    Tracks escape lax n (readFlagsOn fuel flag read) (readFlagsOn fuel' flag read) := by
  let run (k : Nat) (i : Flag × List Flag) := readFlagsOn k i.1 i.2
  change Tracks escape lax n (run fuel (flag, read)) (run fuel' (flag, read))
  refine tracks_loop (fun _ => (fails_fail _ _).forward) (fun _ => (fails_fail _ _).forward)
    (fun n k k' ih i => ?_) enough enough' _
  refine tracks_unless (tracks_unless (tracks_flagAfter _ _ fun r => ?_))
  cases r with
  | inl c => exact tracks_pure _
  | inr f => exact ih _ (Nat.le_refl _) (f, _)

theorem tracks_readFlagsOff {escape : List Flag → Prop} {fuel fuel' : Nat} (enough : n ≤ fuel)
    (enough' : n ≤ fuel') (flag : Flag) (read : List Flag) :
    Tracks escape lax n (readFlagsOff fuel flag read) (readFlagsOff fuel' flag read) := by
  let run (k : Nat) (i : Flag × List Flag) := readFlagsOff k i.1 i.2
  change Tracks escape lax n (run fuel (flag, read)) (run fuel' (flag, read))
  refine tracks_loop (fun _ => (fails_fail _ _).forward) (fun _ => (fails_fail _ _).forward)
    (fun n k k' ih i => ?_) enough enough' _
  refine tracks_unless (tracks_flagAfter _ _ fun r => ?_)
  cases r with
  | inl c => exact tracks_pure _
  | inr f => exact ih _ (Nat.le_refl _) (f, _)

theorem tracks_readFirstOff {escape : Flag → Prop} : Tracks escape lax n readFirstOff readFirstOff := by
  refine tracks_flagAfter _ _ fun r => ?_
  cases r with
  | inl c => exact tracks_fail _ _ _
  | inr f => exact tracks_pure f

/-- Options for everything escape: they change what both readings keep. -/
theorem tracks_readFlags? (first : Option Flag) :
    Tracks (· = none) lax n (readFlags? first) (readFlags? first) := by
  refine tracks_size fun j _ s s' enough enough' => ?_
  extract_lets limit complete limit' complete'
  have completed (r : List Flag × Char) : Tracks (· = none) lax j (complete r) (complete' r) := by
    obtain ⟨on, stop⟩ := r
    refine tracks_ite ?_ (tracks_unless ?_)
    · refine ⟨Forward.bind ?_ fun _ => forward_pure none, Forward.bind ?_ fun _ => forward_pure none, fun s s' _ => ?_⟩
      · exact forward_modify fun _ => rfl
      · exact forward_modify fun _ => rfl
      · exact .escaped none _ _ rfl rfl rfl
    · extract_lets finish
      have finished (off : List Flag) : Tracks (· = none) lax j (finish off) (finish off) :=
        tracks_unless (tracks_unless (tracks_pure _))
      refine tracks_ite ?_ ((tracks_pure []).bind finished)
      exact tracks_readFirstOff.bind fun f => (tracks_readFlagsOff enough enough' f []).bind finished
  cases first with
  | none => exact (tracks_pure _).bind completed
  | some f => exact (tracks_readFlagsOn enough enough' f []).bind completed

end

/-! ## Groups and comments -/

theorem openGroup_none (s : State) :
    openGroup none s = .ok (s.groups.size + 1, { s with groups := s.groups.push none }) := rfl

theorem openGroup_taken {s : State} {name : String} {earlier : Nat} (taken : s.names.lookup name = some earlier) :
    ∃ e, openGroup (some name) s = .error e := by
  refine ⟨.place (.nameTaken name (s.groups.size + 1) earlier) (s.cursor.pos - (name.length + 1)), ?_⟩
  rw [openGroup, bind_get]
  dsimp only
  rw [taken]
  rfl

theorem openGroup_new {s : State} {name : String} (new : s.names.lookup name = none) :
    openGroup (some name) s = .ok (s.groups.size + 1,
      { s with groups := s.groups.push none, names := (name, s.groups.size + 1) :: s.names }) := by
  rw [openGroup, bind_get]
  dsimp only
  rw [new]
  rfl

theorem forward_openGroup (name : Option String) : Forward (openGroup name) := by
  refine forward_of_stays fun s number t done => ?_
  cases name with
  | none =>
    rw [openGroup_none] at done
    cases done
    rfl
  | some name =>
    cases known : s.names.lookup name with
    | some earlier =>
      obtain ⟨e, failed⟩ := openGroup_taken known
      rw [failed] at done
      cases done
    | none =>
      rw [openGroup_new known] at done
      cases done
      rfl

theorem tracks_openGroup {escape : Nat → Prop} {lax : Bool} (name : Option String) :
    Tracks escape lax n (openGroup name) (openGroup name) where
  alone := forward_openGroup name
  enclosed := forward_openGroup name
  outcome s s' h := by
    have same := h.agree
    have size : s'.groups.size = s.groups.size := by rw [same.groups]
    cases name with
    | none =>
      rw [openGroup_none, openGroup_none, size]
      exact .same _ _ _ rfl rfl (h.change rfl rfl rfl { same with groups := by rw [same.groups] })
    | some name =>
      cases known : s.names.lookup name with
      | some earlier =>
        obtain ⟨e, one⟩ := openGroup_taken known
        obtain ⟨e', two⟩ := openGroup_taken (s := s') (by rw [same.names, known])
        exact outcome_of_errors one two
      | none =>
        rw [openGroup_new known, openGroup_new (s := s') (by rw [same.names, known]), size, same.names]
        exact .same _ _ _ rfl rfl (h.change rfl rfl rfl { same with groups := by rw [same.groups], names := rfl })

theorem tracks_closeGroup {escape : Unit → Prop} {lax : Bool} (number : Nat) (width : Width) :
    Tracks escape lax n (closeGroup number width) (closeGroup number width) :=
  tracks_modify (fun _ => rfl) (fun _ => rfl) (fun _ => rfl) fun s s' agree =>
    { agree with groups := by rw [agree.groups] }

theorem tracks_skipComment {escape : Unit → Prop} {lax : Bool} (start start' : Nat) {fuel fuel' : Nat}
    (enough : n ≤ fuel) (enough' : n ≤ fuel') :
    Tracks escape lax n (skipComment start fuel) (skipComment start' fuel') := by
  let run (start k : Nat) (_ : Unit) := skipComment start k
  change Tracks escape lax n (run start fuel ()) (run start' fuel' ())
  refine tracks_loop (fun _ => (fails_failAt _ _).forward) (fun _ => (fails_failAt _ _).forward)
    (fun n k k' ih i => ?_) enough enough' _
  refine tracks_take_some (fails_failAt _ _) (fails_failAt _ _) fun t => tracks_ite (tracks_pure ()) ?_
  exact ih _ (Nat.le_refl _) ()

/-- A comment up to the end of its line may be the last thing in a text, with the parenthesis
after the text in it. -/
theorem tracks_skipLine {escape : Unit → Prop} {fuel fuel' : Nat} (enough : n ≤ fuel) (enough' : n ≤ fuel') :
    Tracks escape true n (skipLine fuel) (skipLine fuel') := by
  let run (k : Nat) (_ : Unit) := skipLine k
  change Tracks escape true n (run fuel ()) (run fuel' ())
  refine tracks_loop (fun _ => forward_pure ()) (fun _ => forward_pure ()) (fun n k k' ih i => ?_) enough enough' _
  refine tracks_take (.inl ⟨forward_pure (), rfl⟩) (forward_pure ()) fun t => tracks_ite (tracks_pure ()) ?_
  exact ih _ (Nat.le_refl _) ()

/-! ## Conditions and lookbehinds -/

theorem lookup_asked {l l' : List (Nat × Nat)} (same : l'.map Prod.fst = l.map Prod.fst) (number : Nat) :
    (l'.lookup number).isSome = (l.lookup number).isSome := by
  have among (l : List (Nat × Nat)) : (l.lookup number).isSome = (l.map Prod.fst).contains number := by
    induction l with
    | nil => rfl
    | cons p l ih =>
      rw [List.lookup_cons, List.map_cons, List.contains_cons]
      cases number == p.1
      · exact ih
      · rfl
  rw [among, among, same]

theorem tracks_readCondition {escape : Nat → Prop} {lax : Bool} : Tracks escape lax n readCondition readCondition := by
  refine (tracks_name _ _).bind fun cs => tracks_ite ?_ ?_
  · refine tracks_get fun s s' agree => ?_
    rw [agree.names]
    split
    · exact (tracks_checkBehind _).bind fun _ => tracks_pure _
    · exact tracks_fail _ _ _
  · split
    · exact tracks_fail _ _ _
    · refine tracks_unless (tracks_unless (tracks_unless (tracks_pos fun p p' => ?_)))
      refine Tracks.bind ?_ fun _ => (tracks_checkBehind _).bind fun _ => tracks_pure _
      refine tracks_modify (fun s => ?_) (fun s => ?_) (fun s => ?_) fun s s' agree => ?_
      · split <;> rfl
      · split <;> rfl
      · split <;> rfl
      · rw [lookup_asked agree.asked]
        split
        · exact agree
        · exact { agree with asked := by rw [List.map_append, List.map_append, agree.asked]; rfl }

theorem tracks_insideBehind {α : Type} {escape : α → Prop} {lax : Bool} (behind : Bool) {body body' : Reader α}
    (h : Tracks never lax n body body') : Tracks escape lax n (insideBehind behind body) (insideBehind behind body') := by
  refine tracks_get fun s s' agree => ?_
  rw [agree.behindFrom]
  extract_lets before start start'
  have started : Tracks escape lax n (start ()) (start' ()) := by
    refine h.bind fun r => tracks_ite (Tracks.bind ?_ fun _ => tracks_pure r) (tracks_pure r)
    exact tracks_modify (fun _ => rfl) (fun _ => rfl) (fun _ => rfl) fun t t' agree => { agree with behindFrom := rfl }
  refine tracks_ite (Tracks.bind ?_ fun _ => started) started
  exact tracks_modify (fun _ => rfl) (fun _ => rfl) (fun _ => rfl) fun t t' agree =>
    { agree with behindFrom := by rw [agree.groups] }

end Diagnosis.Pattern
