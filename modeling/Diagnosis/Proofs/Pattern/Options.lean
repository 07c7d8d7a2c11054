import Diagnosis.Proofs.Pattern.Grammar

/-!
# Options for a whole pattern

A pattern may begin with options that hold everywhere, with nothing but comments
before them. Whether it does is seen from its text. A pattern that does not is read
the same way as one in a place where such options may not be set.
-/

namespace Diagnosis.Pattern

open Reader

/-- Whether letters of options go on up to a closing parenthesis. -/
def endsOptions : List Char → Bool
  | [] => false
  | c :: rest => c == ')' || ((Flag.of? c).isSome && endsOptions rest)

mutual
/-- Whether a text begins with options that hold everywhere, comments before them apart. -/
def setsOptions : List Char → Bool
  | '(' :: '?' :: '#' :: rest => setsOptionsAfterComment rest
  | '(' :: '?' :: c :: rest => (Flag.of? c).isSome && endsOptions rest
  | _ => false
/-- The same after the comment that a text begins with. -/
def setsOptionsAfterComment : List Char → Bool
  | '\\' :: _ :: rest => setsOptionsAfterComment rest
  | ')' :: rest => setsOptions rest
  | _ :: rest => setsOptionsAfterComment rest
  | [] => false
end

/-! ## What the text shows -/

theorem setsOptions_comment (rest : List Char) :
    setsOptions ('(' :: '?' :: '#' :: rest) = setsOptionsAfterComment rest := by
  rw [setsOptions]

theorem setsOptions_letters {c : Char} (other : c ≠ '#') (rest : List Char) :
    setsOptions ('(' :: '?' :: c :: rest) = ((Flag.of? c).isSome && endsOptions rest) := by
  rw [setsOptions]
  exact fun same => other same

example : setsOptions ['(', '?', '#', '\\', ')', ')', '(', '?', 'i', ')', 'x'] = true := by decide

theorem setsOptionsAfterComment_chars {t : Token} (proper : t ≠ .plain '\\') (rest : List Char) :
    setsOptionsAfterComment (t.chars ++ rest) =
      if t == .plain ')' then setsOptions rest else setsOptionsAfterComment rest := by
  cases t with
  | escaped c => rfl
  | plain c =>
    have differs : c ≠ '\\' := fun same => proper (by rw [same])
    by_cases closes : c = ')'
    · subst closes
      exact setsOptionsAfterComment.eq_2 rest
    · rw [if_neg fun same => closes (Token.plain.inj (beq_iff_eq.1 same))]
      exact setsOptionsAfterComment.eq_3 c rest (fun _ _ same _ => differs same) closes

/-- A pattern that begins with options begins with a parenthesis. -/
theorem setsOptions_begins {rest : List Char} (sets : setsOptions rest = true) : ∃ left, rest = '(' :: left := by
  unfold setsOptions at sets
  split at sets
  · exact ⟨_, rfl⟩
  · exact ⟨_, rfl⟩
  · cases sets

/-- Without a question mark after it a parenthesis begins no options. -/
theorem setsOptions_group {rest : List Char} (group : ∀ left, rest ≠ '?' :: left) : setsOptions ('(' :: rest) = false := by
  unfold setsOptions
  split
  · rename_i same
    exact absurd (List.cons.inj same).2 (group _)
  · rename_i same
    exact absurd (List.cons.inj same).2 (group _)
  · rfl

/-! ## What is read -/

theorem flagAfter_ok {closing : List Char} {missing : Fault} {s u : State} {r : Char ⊕ Flag}
    (done : flagAfter closing missing s = .ok (r, u)) :
    (∃ c, r = .inl c ∧ c ∈ closing ∧ s.cursor.rest = c :: u.cursor.rest) ∨
      ∃ c f, r = .inr f ∧ c ∉ closing ∧ Flag.of? c = some f ∧ s.cursor.rest = c :: u.cursor.rest := by
  obtain ⟨o, v, taken, rest⟩ := bind_ok done
  cases o with
  | none => cases rest
  | some t =>
    obtain ⟨shape, -⟩ := take_some taken
    cases t with
    | escaped c => cases rest
    | plain c =>
      dsimp only at rest
      by_cases closes : closing.contains c = true
      · rw [if_pos closes] at rest
        cases rest
        exact .inl ⟨c, rfl, List.contains_iff_mem.1 closes, shape⟩
      · rw [if_neg closes] at rest
        cases known : Flag.of? c with
        | none => rw [known] at rest; cases rest
        | some f =>
          rw [known] at rest
          cases rest
          exact .inr ⟨c, f, rfl, fun among => closes (List.contains_iff_mem.2 among), known, shape⟩

theorem readFlagsOn_stop (fuel : Nat) (f : Flag) (read : List Flag) {s u : State} {r : List Flag × Char}
    (done : readFlagsOn fuel f read s = .ok (r, u)) : (r.2 == ')') = endsOptions s.cursor.rest := by
  induction fuel generalizing f read s with
  | zero => cases done
  | succ fuel ih =>
    obtain ⟨o, v, one, two⟩ := bind_ok (passed_guard (fails_fail _ _) (passed_guard (fails_fail _ _) done))
    rcases flagAfter_ok one with ⟨c, rfl, closes, shape⟩ | ⟨c, g, rfl, stays, known, shape⟩
    · cases two
      rw [shape]
      simp only [List.mem_cons, List.not_mem_nil, or_false] at closes
      rcases closes with rfl | rfl | rfl <;> rfl
    · have other : (c == ')') = false := beq_eq_false_iff_ne.2 fun same => stays (by simp [same])
      rw [ih g _ two, shape, endsOptions, other, known]
      rfl

theorem skipComment_passes (start fuel : Nat) {s u : State} (done : skipComment start fuel s = .ok ((), u)) :
    setsOptionsAfterComment s.cursor.rest = setsOptions u.cursor.rest := by
  induction fuel generalizing s with
  | zero => cases done
  | succ fuel ih =>
    obtain ⟨o, v, taken, rest⟩ := bind_ok done
    cases o with
    | none => cases rest
    | some t =>
      obtain ⟨shape, proper⟩ := take_some taken
      rw [shape, setsOptionsAfterComment_chars proper]
      change (if (t == .plain ')') = true then pure () else skipComment start fuel : Reader Unit) v = .ok ((), u) at rest
      by_cases closes : (t == .plain ')') = true
      · rw [if_pos closes] at rest ⊢
        cases rest
        rfl
      · rw [if_neg closes] at rest ⊢
        exact ih rest

/-- Options that hold everywhere are those that a parenthesis ends. -/
theorem readFlags?_isNone {first : Option Flag} {s u : State} {change : Option FlagChange}
    (done : readFlags? first s = .ok (change, u)) : change.isNone = (first.isSome && endsOptions s.cursor.rest) := by
  unfold readFlags? at done
  obtain ⟨_, v, got, done⟩ := bind_ok done
  cases got
  extract_lets limit complete at done
  have completed (r : List Flag × Char) {v : State} (done : complete r v = .ok (change, u)) :
      change.isNone = (r.2 == ')') := by
    obtain ⟨on, stop⟩ := r
    cases ends : stop == ')' with
    | true =>
      obtain ⟨_, w, _, done⟩ := bind_ok ((congrFun (if_pos ends) v).symm.trans done)
      cases done
      rfl
    | false =>
      have going := (congrFun (if_neg (by rw [ends]; exact Bool.false_ne_true)) v).symm.trans done
      refine (?_ : Yields (fun c : Option FlagChange => c.isNone = false) _) v change u (passed_guard (fails_fail _ _) going)
      refine yields_ite (yields_bind fun _ => yields_bind fun off => ?_) (yields_bind fun off => ?_)
      all_goals
        exact yields_ite ((fails_fail _ _).bind _).yields (yields_ite ((fails_fail _ _).bind _).yields (yields_pure rfl))
  cases first with
  | none =>
    have bare : complete ([], '-') s = .ok (change, u) := done
    rw [completed ([], '-') bare]
    rfl
  | some f =>
    obtain ⟨r, w, one, two⟩ := bind_ok done
    rw [completed r two, readFlagsOn_stop _ _ _ one]
    rfl

/-- What a construct is read as shows in its text. -/
def Shows (rest left : List Char) : Construct → Prop
  | .item _ => setsOptions ('(' :: rest) = false
  | .nothing => setsOptions ('(' :: rest) = setsOptions left
  | .options => setsOptions ('(' :: rest) = true

theorem setsOptions_chars {t : Token} (other : t ≠ .plain '#') (rest : List Char) :
    setsOptions ('(' :: '?' :: (t.chars ++ rest)) = ((t.plain?.bind Flag.of?).isSome && endsOptions rest) := by
  cases t with
  | escaped c => rfl
  | plain c => exact setsOptions_letters (fun same => other (by rw [same])) rest

/-- A construct is an item. -/
def IsItem (c : Construct) : Prop := ∃ i, c = .item i

theorem yields_item {α : Type} (m : Reader α) (make : α → Item) :
    Yields IsItem (m >>= fun a => pure (.item (make a))) := yields_bind fun _ => yields_pure ⟨_, rfl⟩

theorem Yields.shows {m : Reader Construct} (items : Yields IsItem m) {rest : List Char}
    (unset : setsOptions ('(' :: rest) = false) (s : State) : Gives m s fun c u => Shows rest u.cursor.rest c := by
  intro c u done
  obtain ⟨i, rfl⟩ := items s c u done
  exact unset

theorem comment_shows (start : Nat) (s : State) : Gives
    (get >>= fun s => skipComment start (s.cursor.rest.length + 1) >>= fun _ => pure .nothing : Reader Construct) s
    fun c u => Shows ('?' :: '#' :: s.cursor.rest) u.cursor.rest c := by
  intro c u done
  obtain ⟨_, x, got, done⟩ := bind_ok done
  cases got
  obtain ⟨_, x, passed, done⟩ := bind_ok done
  cases done
  exact (setsOptions_comment _).trans (skipComment_passes start _ passed)

/-- Options for everything are seen in the text, and so is a group with options of its own. -/
theorem flags_shows {t : Token} (other : t ≠ .plain '#') {k : Option FlagChange → Reader Construct}
    (all : k none = pure .options) (own : ∀ change, Yields IsItem (k (some change))) (s : State) :
    Gives (readFlags? (t.plain?.bind Flag.of?) >>= k) s
      fun c u => Shows ('?' :: (t.chars ++ s.cursor.rest)) u.cursor.rest c := by
  intro c u done
  obtain ⟨change, v, read, done⟩ := bind_ok done
  have ends := readFlags?_isNone read
  rw [← setsOptions_chars other] at ends
  cases change with
  | none =>
    rw [all] at done
    cases done
    exact ends.symm
  | some change => exact (own change).shows ends.symm v c u done

theorem readConstruct_shows (mode : Mode) (start fuel : Nat) {s u : State} {c : Construct}
    (done : readConstruct mode start fuel s = .ok (c, u)) : Shows s.cursor.rest u.cursor.rest c := by
  cases fuel with
  | zero =>
    rw [readConstruct] at done
    cases done
  | succ fuel =>
    rw [readConstruct] at done
    by_cases stands : s.cursor.token? = some (.plain '?')
    · rw [accept_bind_of_stands stands] at done
      obtain ⟨o, v, asked, done⟩ := bind_ok done
      obtain rfl := (take_token asked).trans stands
      obtain ⟨shape, -⟩ := take_some asked
      obtain ⟨o, w, taken, done⟩ := bind_ok done
      cases o with
      | none => cases done
      | some t =>
        obtain ⟨shape', -⟩ := take_some taken
        rw [shape, shape']
        refine (?_ : Gives _ w fun c u => Shows ('?' :: (t.chars ++ w.cursor.rest)) u.cursor.rest c) c u done
        split <;> rename_i begins
        · cases begins
        · cases begins
          refine Yields.shows (yields_bind fun _ => yields_ite ?_ (yields_bind fun _ => yields_ite ?_ ?_)) rfl w
          · exact yields_bind fun cs => yields_ite ((fails_fail _ _).bind _).yields (yields_item _ _)
          · refine yields_bind fun cs => yields_ite ((fails_fail _ _).bind _).yields (yields_bind fun s => ?_)
            split
            · exact (fails_fail _ _).yields
            · refine yields_bind fun s => ?_
              split
              · exact (fails_fail _ _).yields
              · exact yields_item _ _
          · refine yields_bind fun t => ?_
            split <;> exact (fails_fail _ _).yields
        · cases begins
          exact (yields_item _ _).shows rfl w
        · cases begins
          exact (yields_item _ _).shows rfl w
        · cases begins
          exact comment_shows start w
        · cases begins
          exact (yields_item _ _).shows rfl w
        · cases begins
          exact (yields_item _ _).shows rfl w
        · cases begins
          refine Yields.shows (yields_bind fun t => ?_) rfl w
          split
          · exact (fails_fail _ _).yields
          · exact yields_item _ _
          · exact yields_item _ _
          · exact (fails_fail _ _).yields
        · cases begins
          refine Yields.shows (yields_bind fun _ => yields_bind fun _ => yields_bind fun _ => yields_ite ?_ ?_) rfl w
          · exact yields_bind fun _ => yields_bind fun _ => yields_ite ((fails_fail _ _).bind _).yields (yields_item _ _)
          · exact yields_item _ _
        · cases begins
          rename_i comment _ _ _ _
          exact gives_ite (flags_shows comment rfl (fun _ => yields_item _ _) w) (fails_fail _ _).gives
    · rw [bind_of_ok (accept_of_not stands)] at done
      refine (yields_item _ _).shows (setsOptions_group fun left begins => ?_) s c u done
      exact stands (token?_chars (by decide) (begins : s.cursor.rest = Token.chars (.plain '?') ++ left))

/-! ## Where options for everything may be set -/

theorem repeatLast_ne_nil {b : Bounds} {start : Nat} {items read : List Item} {s t : State}
    (done : repeatLast b start items s = .ok (read, t)) : read ≠ [] := by
  cases items with
  | nil => cases done
  | cons i rest =>
    obtain ⟨greed, u, -, done⟩ := bind_ok (passed_guard (fails_failAt _ _) (passed_guard (fails_failAt _ _) done))
    cases done
    exact List.cons_ne_nil _ _

section
variable {mode : Mode} (bare : mode.verbose = false) {fuel : Nat}
include bare

theorem goOn_parenthesis (first : Bool) (read : List Item) (start : Nat) :
    goOn mode first fuel read start (.plain '(') = (do
      match ← readConstruct mode start fuel with
      | .item i => readSequence mode first fuel (i :: read)
      | .nothing => readSequence mode first fuel read
      | .options =>
        if ! first || ! read.isEmpty then failAt .lateFlags start
        readSequence (← get).globals first fuel read) := by
  unfold goOn
  simp only [bare, Bool.false_and]
  rfl

/-- A token after which a sequence goes on the same way whether or not options for everything may
still be set. -/
theorem goOn_first {read : List Item} {start : Nat} {t : Token} {s : State}
    (unset : read ≠ [] ∨ setsOptions (t.chars ++ s.cursor.rest) = false)
    (onward : ∀ read s, read ≠ [] ∨ setsOptions s.cursor.rest = false →
      readSequence mode true fuel read s = readSequence mode false fuel read s) :
    goOn mode true fuel read start t s = goOn mode false fuel read start t s := by
  have further (i : Item) (read : List Item) (s : State) := onward (i :: read) s (.inl (List.cons_ne_nil _ _))
  have repeated (b : Bounds) (s : State) : (repeatLast b start read >>= readSequence mode true fuel) s =
      (repeatLast b start read >>= readSequence mode false fuel) s :=
    bind_eq fun read s done => onward read s (.inl (repeatLast_ne_nil done))
  cases t with
  | escaped c => exact bind_eq fun i s _ => further i read s
  | plain c =>
    by_cases opens : c = '('
    · subst opens
      rw [goOn_parenthesis bare, goOn_parenthesis bare]
      refine bind_eq fun c u done => ?_
      have shows := readConstruct_shows mode start fuel done
      cases c with
      | item i => exact further i read u
      | nothing => exact onward read u (unset.imp_right fun unset => shows.symm.trans unset)
      | options =>
        rcases unset with started | unset
        · have late : (! read.isEmpty) = true := by
            cases read with
            | nil => exact absurd rfl started
            | cons => rfl
          simp only [late, Bool.or_true, if_true]
          rfl
        · cases shows.symm.trans unset
    · unfold goOn
      simp only [bare, Bool.false_and]
      refine ite_eq (absurd · Bool.false_ne_true) fun _ => ite_eq (absurd · Bool.false_ne_true) fun _ => ?_
      refine ite_eq (fun _ => bind_eq fun i s _ => further i read s) fun _ => ?_
      refine ite_eq (fun _ => repeated _ s) fun _ => ite_eq (fun _ => repeated _ s) fun _ => ?_
      refine ite_eq (fun _ => repeated _ s) fun _ => ite_eq (fun _ => bind_eq fun b s _ => ?_) fun _ => ?_
      · cases b with
        | some b => exact repeated b s
        | none => exact further _ read s
      · refine ite_eq (fun _ => further _ read s) fun _ => ite_eq (fun _ => further _ read s) fun _ => ?_
        refine ite_eq (fun _ => further _ read s) fun _ => ite_eq (fun is => ?_) fun _ => further _ read s
        exact absurd (beq_iff_eq.1 is) opens

/-- Where a text sets no options, and after an item, it does not matter whether they may be set. -/
theorem readSequence_first {fuel : Nat} {read : List Item} {s : State}
    (unset : read ≠ [] ∨ setsOptions s.cursor.rest = false) :
    readSequence mode true fuel read s = readSequence mode false fuel read s := by
  induction fuel generalizing read s with
  | zero => rw [readSequence, readSequence]
  | succ fuel ih =>
    cases ends : endsSequence s.cursor.token? with
    | true => rw [readSequence_end ends, readSequence_end ends]
    | false =>
      cases stands : s.cursor.token? with
      | none => rw [stands] at ends; cases ends
      | some t =>
        rw [stands] at ends
        rw [readSequence_on stands ends, readSequence_on stands ends]
        refine bind_eq fun o u taken => goOn_first bare ?_ fun read s => ih
        obtain rfl := (take_token taken).trans stands
        rwa [← (take_some taken).1]

/-- Where options for everything may not be set, a text that sets them is refused. -/
theorem readSequence_refuses {fuel : Nat} {s u : State} {i : Item} (sets : setsOptions s.cursor.rest = true) :
    readSequence mode false fuel [] s ≠ .ok (i, u) := by
  induction fuel generalizing s with
  | zero =>
    rw [readSequence]
    exact (fails_fail _ _).not_ok s _
  | succ fuel ih =>
    intro done
    obtain ⟨left, begins⟩ := setsOptions_begins sets
    have stands : s.cursor.token? = some (.plain '(') := token?_chars (by decide) begins
    rw [readSequence_on stands rfl, goOn_parenthesis bare] at done
    obtain ⟨o, v, taken, done⟩ := bind_ok done
    obtain rfl := (take_token taken).trans stands
    obtain ⟨c, w, read, done⟩ := bind_ok done
    have shows := readConstruct_shows _ _ _ read
    rw [(take_some taken).1] at sets
    cases c with
    | item i => cases sets.symm.trans shows
    | nothing => exact ih (shows.symm.trans sets) done
    | options => cases done

end

end Diagnosis.Pattern
