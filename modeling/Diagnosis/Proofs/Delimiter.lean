import Diagnosis.Proofs.Block
import Diagnosis.Proofs.Pattern.Options

/-!
# Delimiters in their lookahead

The text of a delimiter is put between the parentheses of a lookahead. What it
means there is what it means on its own, with two exceptions: a delimiter that sets
options for the whole pattern is refused, and a delimiter with a closing parenthesis
too many may get the parenthesis that it lacks from the lookahead.
-/

namespace Diagnosis

namespace Pattern

open Reader

/-- Before anything is read. -/
def State.before (rest : List Char) (pos : Nat) : State := { cursor := ⟨rest, pos⟩, globals := everywhere }

/-! ## Alternatives of the whole pattern -/

theorem readAlternatives_top (mode : Mode) (fuel : Nat) (read : List Item) (s : State) :
    readAlternatives mode false (fuel + 1) read s = (do
      let i ← readSequence s.globals read.isEmpty fuel []
      if ← accept '|' then readAlternatives s.globals false fuel (i :: read)
      else return .alternatives (i :: read).reverse : Reader Item) s := by
  rw [readAlternatives]
  rfl

theorem forward_readAlternatives (mode : Mode) (fuel : Nat) {read : List Item} (started : read ≠ []) :
    Forward (readAlternatives mode false fuel read) := by
  induction fuel generalizing mode read with
  | zero =>
    rw [readAlternatives]
    exact (fails_fail _ _).forward
  | succ fuel ih =>
    intro s i t done
    have later : read.isEmpty = false := by
      cases read with
      | nil => exact absurd rfl started
      | cons => rfl
    rw [readAlternatives_top, later] at done
    have sequence := ((alike_self fuel).sequence 0 s.globals [] enough_zero).alone
    refine (sequence.bind fun i => (forward_accept '|').bind fun more => forward_ite ?_ ?_) s i t done
    · exact ih _ (List.cons_ne_nil _ _)
    · exact forward_pure _

section
variable {n fuel fuel' : Nat} {read : List Item}

/-- One alternative in both readings, where no options for everything are set. -/
theorem outcome_alternative (mode : Mode) {s s' : State} (h : Encloses n s s')
    (enough : Enough 2 n (fuel + 1) (fuel' + 1)) (unset : read ≠ [] ∨ setsOptions s.cursor.rest = false)
    (others : ∀ i, Tracks never false (n - 1) (readAlternatives everywhere false fuel (i :: read))
      (readAlternatives everywhere true fuel' (i :: read))) :
    Outcome never false n (readAlternatives mode false (fuel + 1) read s)
      (readAlternatives everywhere true (fuel' + 1) read s') := by
  have globals : s.globals = everywhere := congrArg Prod.fst h.unset
  have first : readSequence everywhere read.isEmpty fuel [] s = readSequence everywhere false fuel [] s := by
    cases read with
    | cons => rfl
    | nil => exact readSequence_first rfl (.inr (unset.resolve_left fun started => started rfl))
  rw [readAlternatives_top, globals, bind_at first, readAlternatives_nested]
  refine Tracks.outcome (Tracks.bind ((alike fuel fuel').sequence n everywhere [] enough.down) fun i => ?_) s s' h
  exact tracks_accept_then (by decide) (others i) (tracks_pure _)

theorem tracks_alternatives (mode : Mode) (started : read ≠ []) (enough : Enough 2 n fuel fuel') :
    Tracks never false n (readAlternatives mode false fuel read) (readAlternatives everywhere true fuel' read) := by
  have alone := forward_readAlternatives mode fuel started
  have enclosed := ((alike_self fuel').alternatives 0 everywhere read enough_zero).alone
  induction fuel generalizing fuel' n mode read with
  | zero =>
    cases enough.spent (.inl rfl)
    exact tracks_zero alone enclosed
  | succ fuel ih =>
    cases fuel' with
    | zero =>
      cases enough.spent (.inr rfl)
      exact tracks_zero alone enclosed
    | succ fuel' =>
      refine ⟨alone, enclosed, fun s s' h => outcome_alternative mode h enough (.inl started) fun i => ?_⟩
      have others := List.cons_ne_nil i read
      refine ih everywhere others ?_ (forward_readAlternatives _ _ others)
        ((alike_self fuel').alternatives 0 everywhere _ enough_zero).alone
      unfold Enough at *
      omega

/-- All alternatives in both readings, where no options for everything are set. -/
theorem outcome_alternatives {s s' : State} (h : Encloses n s s') (enough : Enough 2 n (fuel + 1) (fuel' + 1))
    (unset : setsOptions s.cursor.rest = false) :
    Outcome never false n (readAlternatives {} false (fuel + 1) [] s)
      (readAlternatives everywhere true (fuel' + 1) [] s') := by
  refine outcome_alternative {} h enough (.inr unset) fun i => ?_
  refine tracks_alternatives everywhere (List.cons_ne_nil i []) ?_
  unfold Enough at *
  omega

/-- A text that sets options for everything closes nothing where they may not be set. -/
theorem doomed_of_options {s s' t' : State} {i : Item} (h : Encloses n s s')
    (enough : Enough 2 n (fuel + 1) (fuel' + 1)) (sets : setsOptions s.cursor.rest = true)
    (done : readAlternatives everywhere true (fuel' + 1) [] s' = .ok (i, t')) : Doomed t'.cursor := by
  have refused (i : Item) (t : State) : readAlternatives everywhere true (fuel + 1) [] s ≠ .ok (i, t) := by
    intro read
    rw [readAlternatives_nested] at read
    obtain ⟨first, u, one, -⟩ := bind_ok read
    exact readSequence_refuses rfl sets one
  cases ((alike _ _).alternatives n everywhere [] enough).outcome s s' h with
  | same a t u one => exact absurd one (refused a t)
  | escaped a t u out => exact out.elim
  | lost _ two => exact two i t' done

end

/-! ## The lookahead around the text -/

section
variable {c : Char} {rest : List Char} {pos : Nat}

theorem token?_before (proper : c ≠ '\\') : (State.before (c :: rest) pos).cursor.token? = some (.plain c) :=
  token?_chars (fun same => proper (Token.plain.inj same)) rfl

theorem take_before (proper : c ≠ '\\') (whole : rest ≠ ['\\']) :
    take (State.before (c :: rest) pos) = .ok (some (.plain c), State.before rest (pos + 1)) := by
  have shape : (State.before (c :: rest) pos).cursor.rest = Token.chars (.plain c) ++ rest := rfl
  have next := (next_chars (fun same => proper (Token.plain.inj same)) shape).trans (checked_ok whole)
  rw [take_ok next, token?_before proper]
  rfl

end

theorem insideBehind_false {α : Type} (body : Reader α) : insideBehind false body = body := by
  funext s
  change (body >>= pure) s = body s
  rw [bind_pure]

theorem readLook_ahead (fuel start : Nat) : readLook everywhere false false start (fuel + 1) = (do
    let body ← readAlternatives everywhere true fuel []
    closeAt start
    return .look false false body) := by
  rw [readLook, insideBehind_false]

/-- What stands in the parentheses of a lookahead is read as its body. -/
theorem readAlternatives_lookahead (fuel : Nat) (text : List Char) :
    readAlternatives {} false (fuel + 4) [] (State.before ('(' :: '?' :: '=' :: (text ++ [')'])) 0) = (do
      let i ← readLook everywhere false false 0 (fuel + 1)
      let i ← readSequence everywhere true (fuel + 2) [i]
      if ← accept '|' then readAlternatives everywhere false (fuel + 3) [i]
      else return .alternatives [i] : Reader Item) (State.before (text ++ [')']) 3) := by
  have opened : take (State.before ('(' :: '?' :: '=' :: (text ++ [')'])) 0) = _ := take_before (by decide) (by nofun)
  have asked : take (State.before ('?' :: '=' :: (text ++ [')'])) 1) = _ := take_before (by decide) (by nofun)
  have looks : take (State.before ('=' :: (text ++ [')'])) 2) = _ := take_before (by decide) (enclosed_ne text)
  have construct : readConstruct everywhere 0 (fuel + 2) (State.before ('?' :: '=' :: (text ++ [')'])) 1) =
      (readLook everywhere false false 0 (fuel + 1) >>= fun i => pure (Construct.item i))
        (State.before (text ++ [')']) 3) := by
    rw [readConstruct, accept_bind_of_stands (token?_before (by decide)), bind_of_ok asked]
    exact bind_of_ok looks _
  have sequence : readSequence everywhere true (fuel + 3) [] (State.before ('(' :: '?' :: '=' :: (text ++ [')'])) 0) =
      (readLook everywhere false false 0 (fuel + 1) >>= fun i => readSequence everywhere true (fuel + 2) [i])
        (State.before (text ++ [')']) 3) := by
    rw [readSequence_on (token?_before (by decide)) rfl, bind_of_ok opened, goOn_parenthesis rfl]
    refine (bind_at construct _).trans ?_
    rw [bind_assoc]
    rfl
  rw [readAlternatives_top]
  refine (bind_at sequence _).trans ?_
  rw [bind_assoc]
  rfl

/-- The end of what has been read as a lookahead. -/
theorem lookahead_of_body {fuel : Nat} {text : List Char} {body : Item} {t : State}
    (read : readAlternatives everywhere true fuel [] (State.before (text ++ [')']) 3) = .ok (body, t))
    (left : t.cursor.rest = [')']) :
    ∃ i p, readAlternatives {} false (fuel + 4) [] (State.before ('(' :: '?' :: '=' :: (text ++ [')'])) 0) =
      .ok (i, { t with cursor := ⟨[], p⟩ }) ∧ i.node = .ahead false body.node := by
  have closing : t.cursor.rest = Token.chars (.plain ')') ++ [] := left
  have taken := take_ok (next_chars (by decide) closing)
  have closed : closeAt 0 t = .ok ((), { t with cursor := ⟨[], t.cursor.pos + 1⟩ }) := by
    rw [closeAt_of_stands (token?_chars (by decide) closing), bind_of_ok taken]
    rfl
  refine ⟨.alternatives [.sequence [.look false false body]], t.cursor.pos + 1, ?_, rfl⟩
  rw [readAlternatives_lookahead, readLook_ahead, bind_assoc, bind_of_ok read, bind_assoc, bind_of_ok closed]
  have ended : readSequence everywhere true (fuel + 2) [.look false false body]
      { t with cursor := ⟨[], t.cursor.pos + 1⟩ } = _ := readSequence_end rfl
  have last : accept '|' { t with cursor := ⟨[], t.cursor.pos + 1⟩ } = _ := accept_of_not nofun
  rw [pure_bind, bind_of_ok ended, bind_of_ok last]
  rfl

/-- A lookahead whose body uses up its parenthesis is refused. -/
theorem lookahead_refused {fuel : Nat} {text : List Char}
    (doomed : ∀ body t, readAlternatives everywhere true fuel [] (State.before (text ++ [')']) 3) = .ok (body, t) →
      Doomed t.cursor) (i : Item) (t : State) :
    readAlternatives {} false (fuel + 4) [] (State.before ('(' :: '?' :: '=' :: (text ++ [')'])) 0) ≠ .ok (i, t) := by
  intro done
  rw [readAlternatives_lookahead, readLook_ahead] at done
  obtain ⟨_, _, look, -⟩ := bind_ok done
  obtain ⟨body, u, read, rest⟩ := bind_ok look
  obtain ⟨_, _, closed, -⟩ := bind_ok rest
  rw [closeAt_of_not (doomed body u read u.cursor (.here _))] at closed
  cases closed

/-! ## What is looked at last -/

/-- The faults that show once everything has been read, and the pattern if there are none. -/
def finish (i : Item) : Reader Pattern := do
  let s ← get
  if s.asciiSet && s.unicodeSet then throw .asciiAndUnicode
  if (← peek).isSome then fail .unbalanced 0
  for (number, position) in s.asked do
    if s.groups.size < number then failAt (.groupReference number) position
  match i.node.refusal? s.templateSet with
  | some e => throw e
  | none => return ⟨i.node, s.groups.size⟩

theorem readWhole_apply (rest : List Char) (pos : Nat) : readWhole (State.before rest pos) =
    (readAlternatives {} false (4 * rest.length + 4) [] >>= finish) (State.before rest pos) := rfl

/-- The groups that conditions ask for are among so many. -/
def checkAsked (count : Nat) (asked : List (Nat × Nat)) : Reader PUnit :=
  forIn asked PUnit.unit fun (number, position) _ => do
    if count < number then failAt (.groupReference number) position
    return .yield PUnit.unit

theorem checkAsked_cons (count : Nat) (number position : Nat) (asked : List (Nat × Nat)) :
    checkAsked count ((number, position) :: asked) =
      if count < number then failAt (.groupReference number) position >>= fun _ : PUnit => checkAsked count asked
      else checkAsked count asked := by
  rw [checkAsked, List.forIn_cons]
  dsimp only
  by_cases beyond : count < number
  · rw [if_pos beyond, if_pos beyond, bind_assoc]
    rfl
  · rw [if_neg beyond, if_neg beyond]
    rfl

/-- Positions do not matter for whether all groups are there. -/
theorem checkAsked_alike (count : Nat) {asked asked' : List (Nat × Nat)}
    (same : asked'.map Prod.fst = asked.map Prod.fst) :
    checkAsked count asked = pure PUnit.unit ∧ checkAsked count asked' = pure PUnit.unit ∨
      Fails (checkAsked count asked) ∧ Fails (checkAsked count asked') := by
  induction asked generalizing asked' with
  | nil =>
    rw [List.map_nil, List.map_eq_nil_iff] at same
    rw [same]
    exact .inl ⟨rfl, rfl⟩
  | cons first asked ih =>
    obtain ⟨number, position⟩ := first
    cases asked' with
    | nil => cases same
    | cons first' asked' =>
      obtain ⟨number', position'⟩ := first'
      obtain ⟨rfl, others⟩ := List.cons.inj same
      rw [checkAsked_cons, checkAsked_cons]
      by_cases beyond : count < number'
      · rw [if_pos beyond, if_pos beyond]
        exact .inr ⟨(fails_failAt _ _).bind _, (fails_failAt _ _).bind _⟩
      · rw [if_neg beyond, if_neg beyond]
        exact ih others

section
variable {s s' : State} {i i' : Item}

theorem finish_unbalanced (unset : s.Unset) {t : Token} (stands : s.cursor.token? = some t) :
    finish i s = .error (.place .unbalanced s.cursor.pos) := by
  have asciiSet : s.asciiSet = false := congrArg (·.2.1) unset
  change (if (s.asciiSet && s.unicodeSet) = true then _ else _ : Reader Pattern) s = _
  rw [asciiSet]
  change (if s.cursor.token?.isSome = true then _ else _ : Reader Pattern) s = _
  rw [stands]
  rfl

theorem finish_ended (unset : s.Unset) (ended : s.cursor.rest = []) :
    finish i s = (checkAsked s.groups.size s.asked >>= fun _ =>
      match i.node.refusal? false with
      | some e => throw e
      | none => pure ⟨i.node, s.groups.size⟩ : Reader Pattern) s := by
  have asciiSet : s.asciiSet = false := congrArg (·.2.1) unset
  have templateSet : s.templateSet = false := congrArg (·.2.2.2) unset
  have nothing : s.cursor.token? = none := by rw [Cursor.token?, ended]
  change (if (s.asciiSet && s.unicodeSet) = true then _ else _ : Reader Pattern) s = _
  rw [asciiSet]
  change (if s.cursor.token?.isSome = true then _ else _ : Reader Pattern) s = _
  rw [nothing, ← templateSet]
  rfl

/-- Both readings end in a fault, or both in a pattern. -/
theorem finish_alike (unset : s.Unset) (unset' : s'.Unset) (ended : s.cursor.rest = []) (ended' : s'.cursor.rest = [])
    (groups : s'.groups = s.groups) (asked : s'.asked.map Prod.fst = s.asked.map Prod.fst)
    (refusal : i'.node.refusal? false = i.node.refusal? false) :
    (∃ e e', finish i s = .error e ∧ finish i' s' = .error e') ∨
      finish i s = .ok (⟨i.node, s.groups.size⟩, s) ∧ finish i' s' = .ok (⟨i'.node, s.groups.size⟩, s') := by
  rw [finish_ended unset ended, finish_ended unset' ended', groups, refusal]
  rcases checkAsked_alike s.groups.size asked with ⟨passed, passed'⟩ | ⟨fails, fails'⟩
  · rw [passed, passed', pure_bind, pure_bind]
    cases i.node.refusal? false with
    | none => exact .inr ⟨rfl, rfl⟩
    | some e => exact .inl ⟨e, e, rfl, rfl⟩
  · obtain ⟨e, one⟩ := fails.bind _ s
    obtain ⟨e', two⟩ := fails'.bind _ s'
    exact .inl ⟨e, e', one, two⟩

end

/-! ## The whole pattern -/

theorem ofChars_eq {cs : List Char} (whole : cs ≠ ['\\']) :
    ofChars cs = (readWhole (State.before cs 0)).map Prod.fst := by
  have start : Cursor.start cs = .ok ⟨cs, 0⟩ := checked_ok whole
  unfold ofChars
  rw [start]
  change (readWhole (State.before cs 0)).bind _ = _
  cases readWhole (State.before cs 0) <;> rfl

theorem ofChars_ok {cs : List Char} (whole : cs ≠ ['\\']) {p : Pattern} {t : State}
    (read : readWhole (State.before cs 0) = .ok (p, t)) : ofChars cs = .ok p := by
  rw [ofChars_eq whole, read]
  rfl

theorem ofChars_error {cs : List Char} (whole : cs ≠ ['\\']) {e : Error}
    (read : readWhole (State.before cs 0) = .error e) : ofChars cs = .error e := by
  rw [ofChars_eq whole, read]
  rfl

theorem lookaheadOf_ne (d : List Char) : lookaheadOf d ≠ ['\\'] := enclosed_ne ('(' :: '?' :: '=' :: d)

theorem readWhole_lookahead (d : List Char) : readWhole (State.before (lookaheadOf d) 0) =
    (readAlternatives {} false (4 * d.length + 16 + 4) [] >>= finish) (State.before (lookaheadOf d) 0) := by
  have length : 4 * (lookaheadOf d).length + 4 = 4 * d.length + 16 + 4 := by
    simp only [lookaheadOf, List.length_append, List.length_cons, List.length_nil]
    omega
  rw [readWhole_apply, length]

theorem ofChars_lookahead_error {d : List Char}
    (doomed : ∀ body t, readAlternatives everywhere true (4 * d.length + 16) [] (State.before (d ++ [')']) 3) =
      .ok (body, t) → Doomed t.cursor) : ∃ e, ofChars (lookaheadOf d) = .error e := by
  cases read : readAlternatives {} false (4 * d.length + 16 + 4) [] (State.before (lookaheadOf d) 0) with
  | ok r => exact absurd read (lookahead_refused doomed r.1 r.2)
  | error e => exact ⟨e, ofChars_error (lookaheadOf_ne d) ((readWhole_lookahead d).trans (bind_of_error read _))⟩

/-- What becomes of a text on its own and in a lookahead. -/
theorem ofChars_cases (d : List Char) :
    (∃ p, ofChars d = .ok p ∧ setsOptions d = false ∧ ofChars (lookaheadOf d) = .ok (lookahead p.node p.groups)) ∨
    (setsOptions d = true ∧ ∃ e, ofChars (lookaheadOf d) = .error e) ∨
    ((∃ e, ofChars d = .error e) ∧ ∃ e, ofChars (lookaheadOf d) = .error e) ∨
    ∃ position, ofChars d = .error (.place .unbalanced position) := by
  by_cases lone : d = ['\\']
  · -- On its own the backslash escapes nothing, and in the lookahead the parenthesis.
    subst lone
    refine .inr (.inr (.inl ⟨⟨_, rfl⟩, ofChars_lookahead_error fun body t read => ?_⟩))
    have forward (fuel : Nat) := ((alike_self fuel).alternatives 0 everywhere [] enough_zero).alone
    exact (doomed_of_escaped rfl).further (forward _ _ body t read)
  have h : Encloses (d.length + 1) (State.before d 0) (State.before (d ++ [')']) 3) :=
    ⟨⟨rfl, rfl, rfl, rfl, rfl⟩, rfl, rfl, lone, Nat.lt_succ_self _⟩
  have enough : Enough 2 (d.length + 1) (4 * d.length + 3 + 1) (4 * d.length + 15 + 1) := .inr (by omega)
  cases sets : setsOptions d with
  | true => exact .inr (.inl ⟨rfl, ofChars_lookahead_error fun body t => doomed_of_options h enough sets⟩)
  | false =>
    cases outcome_alternatives h enough sets with
    | escaped _ _ _ out => exact out.elim
    | lost one two =>
      refine .inr (.inr (.inl ⟨?_, ofChars_lookahead_error two⟩))
      cases read : readAlternatives {} false (4 * d.length + 4) [] (State.before d 0) with
      | ok r => cases (one r.1 r.2 read).1
      | error e => exact ⟨e, ofChars_error lone ((readWhole_apply d 0).trans (bind_of_error read _))⟩
    | same i t t' one two kept =>
      have alone : readWhole (State.before d 0) = finish i t := (readWhole_apply d 0).trans (bind_of_ok one _)
      rcases chars_cases kept.whole with ended | ⟨token, left, shape, proper⟩
      · obtain ⟨i', p, read, node⟩ := lookahead_of_body two (by rw [kept.text, ended]; rfl)
        have enclosed := (readWhole_lookahead d).trans (bind_of_ok read finish)
        have unset' : State.Unset { t' with cursor := ⟨[], p⟩ } := kept.agree.options.trans kept.unset
        rcases finish_alike (i := i) kept.unset unset' ended rfl kept.agree.groups kept.agree.asked
          (by rw [node]; rfl) with ⟨e, e', bad, bad'⟩ | ⟨good, good'⟩
        · exact .inr (.inr (.inl ⟨⟨e, ofChars_error lone (alone.trans bad)⟩,
            e', ofChars_error (lookaheadOf_ne d) (enclosed.trans bad')⟩))
        · refine .inl ⟨_, ofChars_ok lone (alone.trans good), rfl, ?_⟩
          rw [ofChars_ok (lookaheadOf_ne d) (enclosed.trans good'), node]
          rfl
      · have stands := token?_chars proper shape
        exact .inr (.inr (.inr ⟨_, ofChars_error lone (alone.trans (finish_unbalanced kept.unset stands))⟩))

end Pattern

/-- A delimiter is accepted as the pattern that it is on its own, unless it sets options for
everything, and then stands at the same positions. What is no pattern on its own is accepted only
if it has a closing parenthesis too many. -/
theorem delimiterPattern_means (d : String) :
    match Pattern.ofChars d.toList, delimiterPattern d with
    | .ok p, .ok q => Pattern.setsOptions d.toList = false ∧ ∀ text,
        (∀ pos, (q.matchAt text pos true).isSome = (p.matchAt text pos true).isSome) ∧
        matchStarts q text = (List.range (text.size + 1)).filter fun pos => (p.matchAt text pos true).isSome
    | .ok _, .error _ => Pattern.setsOptions d.toList = true
    | .error e, .ok _ => ∃ position, e = .place .unbalanced position
    | .error _, .error _ => True := by
  unfold delimiterPattern
  rcases Pattern.ofChars_cases d.toList with ⟨p, alone, unset, enclosed⟩ | ⟨sets, e, refused⟩ |
    ⟨⟨e, alone⟩, e', enclosed⟩ | ⟨position, alone⟩
  · rw [alone, enclosed]
    have stands (text : Array Char) (pos : Nat) : (p.matchAt text pos true).isSome = p.node.standsAt p.groups text pos := rfl
    refine ⟨unset, fun text => ⟨fun pos => ?_, ?_⟩⟩
    · rw [(Pattern.matchAt_lookahead p.node p.groups text pos true).1, Bool.true_and, stands]
    · rw [matchStarts_lookahead]
      rfl
  · rw [refused]
    cases Pattern.ofChars d.toList with
    | ok p => exact sets
    | error e => trivial
  · rw [alone, enclosed]
    trivial
  · rw [alone]
    cases Pattern.ofChars (lookaheadOf d.toList) with
    | ok q => exact ⟨position, rfl⟩
    | error e => trivial

example : (Pattern.ofChars "(?i)x".toList).isOk = true ∧ (delimiterPattern "(?i)x").isOk = false := by decide +kernel

example : (Pattern.ofChars "a)|(b".toList).isOk = false ∧ (delimiterPattern "a)|(b").isOk = true := by decide +kernel

end Diagnosis
