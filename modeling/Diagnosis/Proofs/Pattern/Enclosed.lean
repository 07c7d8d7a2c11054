import Diagnosis.Proofs.Pattern.Steps

/-!
# Two readings of one text

A text is read on its own, and once more with a closing parenthesis after it.
Readers take the same steps in both readings until the first reaches the end of
its text. There the second finds the parenthesis, and where a reader takes it for
a part of what it reads, the parenthesis is missing afterwards: it was there to
close what surrounds the text.
-/

namespace Diagnosis.Pattern

open Reader

variable {α β : Type}

/-! ## Two readings -/

/-- The options that every pattern is read with. -/
def everywhere : Mode := { multiline := true }

/-- The options that hold everywhere, and which of them have been set. -/
def State.options (s : State) : Mode × Bool × Bool × Bool := (s.globals, s.asciiSet, s.unicodeSet, s.templateSet)

/-- No option that holds everywhere has been set. -/
def State.Unset (s : State) : Prop := s.options = (everywhere, false, false, false)

/-- Two readers keep the same, positions apart. -/
structure Agree (s s' : State) : Prop where
  groups : s'.groups = s.groups
  names : s'.names = s.names
  behindFrom : s'.behindFrom = s.behindFrom
  asked : s'.asked.map Prod.fst = s.asked.map Prod.fst
  options : s'.options = s.options

theorem Agree.refl (s : State) : Agree s s := ⟨rfl, rfl, rfl, rfl, rfl⟩

/-- A reader has come to a place of its text, less than so many characters from the end, and
another one to the same place of the text with a closing parenthesis after it. -/
structure Encloses (n : Nat) (s s' : State) : Prop where
  agree : Agree s s'
  unset : s.Unset
  text : s'.cursor.rest = s.cursor.rest ++ [')']
  whole : s.cursor.rest ≠ ['\\']
  bound : s.cursor.rest.length < n

theorem Encloses.mono {n k : Nat} {s s' : State} (h : Encloses n s s') (le : n ≤ k) : Encloses k s s' :=
  { h with bound := Nat.lt_of_lt_of_le h.bound le }

/-- Two readers change the same things alike and leave the text where it is. -/
theorem Encloses.change {n : Nat} {s s' t t' : State} (h : Encloses n s s') (stays : t.cursor = s.cursor)
    (stays' : t'.cursor = s'.cursor) (options : t.options = s.options) (agree : Agree t t') : Encloses n t t' where
  agree := agree
  unset := options.trans h.unset
  text := by rw [stays, stays', h.text]
  whole := by rw [stays]; exact h.whole
  bound := by rw [stays]; exact h.bound

/-- The same at another place. -/
theorem Encloses.at {n i : Nat} {s s' : State} {left : List Char} {p p' : Nat} (h : Encloses n s s')
    (whole : left ≠ ['\\']) (bound : left.length < i) :
    Encloses i { s with cursor := ⟨left, p⟩ } { s' with cursor := ⟨left ++ [')'], p'⟩ } where
  agree := { h.agree with }
  unset := h.unset
  text := rfl
  whole := whole
  bound := bound

/-- How the two readings end. Values of which `escape` holds may come with any state. Only where
`lax` is set can the reading of the text alone go on after the other has taken the parenthesis,
and then nothing is left of its text. -/
inductive Outcome (escape : α → Prop) (lax : Bool) (n : Nat) (r r' : Except Error (α × State)) : Prop where
  | same (a : α) (t t' : State) : r = .ok (a, t) → r' = .ok (a, t') → Encloses n t t' → Outcome escape lax n r r'
  | escaped (a : α) (t t' : State) : escape a → r = .ok (a, t) → r' = .ok (a, t') → Outcome escape lax n r r'
  | lost : (∀ a t, r = .ok (a, t) → lax = true ∧ t.cursor.rest = []) →
      (∀ a t, r' = .ok (a, t) → Doomed t.cursor) → Outcome escape lax n r r'

/-- No value escapes. -/
def never : α → Prop := fun _ => False

/-- The first reader of a text does what the second does with a closing parenthesis after it. -/
structure Tracks (escape : α → Prop) (lax : Bool) (n : Nat) (m m' : Reader α) : Prop where
  alone : Forward m
  enclosed : Forward m'
  outcome : ∀ s s', Encloses n s s' → Outcome escape lax n (m s) (m' s')

section
variable {escape : α → Prop} {lax : Bool} {n : Nat}

theorem Outcome.mono {k : Nat} {r r' : Except Error (α × State)} (le : n ≤ k)
    (h : Outcome escape lax n r r') : Outcome escape lax k r r' := by
  cases h with
  | same a t t' one two kept => exact .same a t t' one two (kept.mono le)
  | escaped a t t' out one two => exact .escaped a t t' out one two
  | lost one two => exact .lost one two

/-- The reading of the text alone may stop where the other goes on. -/
theorem outcome_of_error {r r' : Except Error (α × State)} {e : Error} (one : r = .error e)
    (two : ∀ a t, r' = .ok (a, t) → Doomed t.cursor) : Outcome escape lax n r r' := by
  refine .lost (fun _ _ done => ?_) two
  rw [one] at done
  cases done

theorem outcome_of_errors {r r' : Except Error (α × State)} {e e' : Error} (one : r = .error e)
    (two : r' = .error e') : Outcome escape lax n r r' := by
  refine outcome_of_error one fun _ _ done => ?_
  rw [two] at done
  cases done

theorem tracks_fails {m m' : Reader α} (fails : Fails m) (fails' : Fails m') : Tracks escape lax n m m' where
  alone := fails.forward
  enclosed := fails'.forward
  outcome s s' _ := by
    obtain ⟨e, one⟩ := fails s
    obtain ⟨e', two⟩ := fails' s'
    exact outcome_of_errors one two

/-- No reading is less than no character from the end. -/
theorem tracks_zero {m m' : Reader α} (alone : Forward m) (enclosed : Forward m') : Tracks escape lax 0 m m' where
  alone := alone
  enclosed := enclosed
  outcome _ _ h := absurd h.bound (Nat.not_lt_zero _)

theorem tracks_pure (a : α) : Tracks escape lax n (pure a) (pure a) where
  alone := forward_pure a
  enclosed := forward_pure a
  outcome s s' h := .same a s s' rfl rfl h

end

/-- What may not go on is no case of what may. -/
theorem Tracks.loosen {escape : α → Prop} {n : Nat} {m m' : Reader α} (h : Tracks escape false n m m') (lax : Bool) :
    Tracks escape lax n m m' where
  alone := h.alone
  enclosed := h.enclosed
  outcome s s' enclosing := by
    cases h.outcome s s' enclosing with
    | same a t t' one two kept => exact .same a t t' one two kept
    | escaped a t t' out one two => exact .escaped a t t' out one two
    | lost one two => exact .lost (fun a t done => absurd (one a t done).1 Bool.false_ne_true) two

section
variable {escape : β → Prop} {lax : Bool} {n : Nat}

/-- One reader after the other. The values that escape the first are dealt with apart, and so is
what follows where nothing is left of the text. -/
theorem Tracks.follow {out : α → Prop} {before : Bool} {m m' : Reader α} {k k' : α → Reader β}
    (first : Tracks out before n m m') (second : ∀ a, Tracks escape lax n (k a) (k' a))
    (outside : ∀ a, out a → ∀ s s', Outcome escape lax n (k a s) (k' a s'))
    (atEnd : before = true → ∀ a s, s.cursor.rest = [] → ∀ r, k a s = .ok r → lax = true) :
    Tracks escape lax n (m >>= k) (m' >>= k') where
  alone := first.alone.bind fun a => (second a).alone
  enclosed := first.enclosed.bind fun a => (second a).enclosed
  outcome s s' h := by
    cases first.outcome s s' h with
    | same a t t' one two kept =>
      rw [bind_of_ok one, bind_of_ok two]
      exact (second a).outcome t t' kept
    | escaped a t t' escapes one two =>
      rw [bind_of_ok one, bind_of_ok two]
      exact outside a escapes t t'
    | lost one two =>
      refine .lost (fun b u done => ?_) fun b u done => ?_
      · obtain ⟨a, t, done, further⟩ := bind_ok done
        obtain ⟨allowed, ended⟩ := one a t done
        exact ⟨atEnd allowed a t ended _ further, ((second a).alone t b u further).ended ended⟩
      · obtain ⟨a, t, done, further⟩ := bind_ok done
        exact (two a t done).further ((second a).enclosed t b u further)

theorem Tracks.bind_escape {out : α → Prop} {m m' : Reader α} {k k' : α → Reader β} (first : Tracks out lax n m m')
    (second : ∀ a, Tracks escape lax n (k a) (k' a))
    (outside : ∀ a, out a → ∀ s s', Outcome escape lax n (k a s) (k' a s')) :
    Tracks escape lax n (m >>= k) (m' >>= k') :=
  first.follow second outside fun allowed _ _ _ _ _ => allowed

theorem Tracks.bind {m m' : Reader α} {k k' : α → Reader β} (first : Tracks never lax n m m')
    (second : ∀ a, Tracks escape lax n (k a) (k' a)) : Tracks escape lax n (m >>= k) (m' >>= k') :=
  first.bind_escape second fun _ out => out.elim

/-- What follows needs text, so the first reader stops too when the other has taken the parenthesis. -/
theorem Tracks.bind_strict {m m' : Reader α} {k k' : α → Reader β} (first : Tracks never lax n m m')
    (second : ∀ a, Tracks escape false n (k a) (k' a)) (needs : ∀ a, NeedsText (k a)) :
    Tracks escape false n (m >>= k) (m' >>= k') :=
  first.follow second (fun _ out => out.elim) fun _ a s ended r done => by
    obtain ⟨e, failed⟩ := needs a s ended
    rw [failed] at done
    cases done

theorem tracks_pos {k k' : Nat → Reader β} (second : ∀ p p', Tracks escape lax n (k p) (k' p')) :
    Tracks escape lax n (pos >>= k) (pos >>= k') where
  alone := forward_pos fun p => (second p 0).alone
  enclosed := forward_pos fun p => (second 0 p).enclosed
  outcome s s' h := (second s.cursor.pos s'.cursor.pos).outcome s s' h

/-- What a reader does may depend on what both readers keep. -/
theorem tracks_get {k k' : State → Reader β} (second : ∀ s s', Agree s s' → Tracks escape lax n (k s) (k' s')) :
    Tracks escape lax n (get >>= k) (get >>= k') where
  alone := forward_get fun s => (second s s (.refl s)).alone
  enclosed := forward_get fun s => (second s s (.refl s)).enclosed
  outcome s s' h := (second s s' h.agree).outcome s s' h

/-- A reader may take its bound from how much text is left. -/
theorem tracks_size {k k' : State → Reader β} (second : ∀ j ≤ n, ∀ s s', j ≤ s.cursor.rest.length + 1 →
      j ≤ s'.cursor.rest.length + 1 → Tracks escape lax j (k s) (k' s')) :
    Tracks escape lax n (get >>= k) (get >>= k') where
  alone := forward_get fun s => (second 0 (Nat.zero_le n) s s (Nat.zero_le _) (Nat.zero_le _)).alone
  enclosed := forward_get fun s => (second 0 (Nat.zero_le n) s s (Nat.zero_le _) (Nat.zero_le _)).enclosed
  outcome s s' h := by
    have longer : s.cursor.rest.length + 1 ≤ s'.cursor.rest.length + 1 := by rw [h.text]; simp
    have both := second _ h.bound s s' (Nat.le_refl _) longer
    exact (both.outcome s s' { h with bound := Nat.lt_succ_self _ }).mono h.bound

theorem tracks_modify {escape : Unit → Prop} {f f' : State → State} (stays : ∀ s, (f s).cursor = s.cursor)
    (stays' : ∀ s, (f' s).cursor = s.cursor) (options : ∀ s, (f s).options = s.options)
    (agree : ∀ s s', Agree s s' → Agree (f s) (f' s')) : Tracks escape lax n (modify f) (modify f') where
  alone := forward_modify stays
  enclosed := forward_modify stays'
  outcome s s' h := .same () (f s) (f' s') rfl rfl (h.change (stays s) (stays' s') (options s) (agree s s' h.agree))

theorem tracks_ite_of {c : Prop} [Decidable c] {m m' k k' : Reader β} (yes : c → Tracks escape lax n m m')
    (no : ¬ c → Tracks escape lax n k k') : Tracks escape lax n (if c then m else k) (if c then m' else k') := by
  split
  · exact yes ‹_›
  · exact no ‹_›

theorem tracks_ite {c : Prop} [Decidable c] {m m' k k' : Reader β} (yes : Tracks escape lax n m m')
    (no : Tracks escape lax n k k') : Tracks escape lax n (if c then m else k) (if c then m' else k') :=
  tracks_ite_of (fun _ => yes) fun _ => no

end

/-! ### Tokens in the two readings -/

theorem enclosed_ne (left : List Char) : left ++ [')'] ≠ ['\\'] := by
  intro same
  have last := congrArg List.getLast? same
  simp at last

section
variable {n : Nat} {s s' : State}

/-- At the end of the text stands the parenthesis; before it the same tokens stand in both. -/
theorem Encloses.token (h : Encloses n s s') :
    (s.cursor.rest = [] ∧ s.cursor.token? = none ∧ s'.cursor.token? = some (.plain ')')) ∨
      ∃ t, s.cursor.token? = some t ∧ s'.cursor.token? = some t := by
  rcases chars_cases h.whole with ended | ⟨t, left, shape, proper⟩
  · have shape' : s'.cursor.rest = Token.chars (.plain ')') ++ [] := by rw [h.text, ended]; rfl
    exact .inl ⟨ended, by rw [Cursor.token?, ended], token?_chars (by decide) shape'⟩
  · have shape' : s'.cursor.rest = t.chars ++ (left ++ [')']) := by rw [h.text, shape, List.append_assoc]
    exact .inr ⟨t, token?_chars proper shape, token?_chars proper shape'⟩

theorem Encloses.token_of_ne {t : Token} (h : Encloses n s s') (other : t ≠ .plain ')') :
    s'.cursor.token? = some t ↔ s.cursor.token? = some t := by
  rcases h.token with ⟨-, one, two⟩ | ⟨u, one, two⟩
  · rw [one, two, Option.some.injEq]
    exact ⟨fun same => absurd same.symm other, nofun⟩
  · rw [one, two]

theorem Encloses.left {t : Token} (h : Encloses n s s') (stands : s.cursor.token? = some t) : 1 < n := by
  have some_left : s.cursor.rest.length ≠ 0 := by
    intro ended
    rw [Cursor.token?, List.length_eq_zero_iff.1 ended] at stands
    cases stands
  have bound := h.bound
  omega

/-- At the end of the text the second reading takes the parenthesis. -/
theorem Encloses.take_end (h : Encloses n s s') (ended : s.cursor.rest = []) :
    take s = .ok (none, s) ∧ ∃ t', take s' = .ok (some (.plain ')'), t') ∧ t'.cursor.rest = [] := by
  have none_left : s.cursor.token? = none := by rw [Cursor.token?, ended]
  have shape' : s'.cursor.rest = Token.chars (.plain ')') ++ [] := by rw [h.text, ended]; rfl
  have next : s.cursor.next = .ok s.cursor := by rw [Cursor.next, none_left]
  have next' : s'.cursor.next = .ok ⟨[], s'.cursor.pos + 1⟩ := next_chars (by decide) shape'
  refine ⟨by rw [take_ok next, none_left], { s' with cursor := ⟨[], s'.cursor.pos + 1⟩ }, ?_, rfl⟩
  rw [take_ok next', token?_chars (by decide) shape']

/-- Before the end a token is taken in both readings. Where a lone backslash is left after it, the
first stops, and for the second the backslash escapes the parenthesis. -/
theorem Encloses.take_then {escape : β → Prop} {lax : Bool} {t : Token} {k k' : Option Token → Reader β}
    (h : Encloses n s s') (stands : s.cursor.token? = some t) (enclosed : Forward (k' (some t)))
    (second : ∀ u u', Encloses (n - 1) u u' → Outcome escape lax (n - 1) (k (some t) u) (k' (some t) u')) :
    Outcome escape lax n ((take >>= k) s) ((take >>= k') s') := by
  rcases chars_cases h.whole with ended | ⟨t₁, left, shape, proper⟩
  · rw [Cursor.token?, ended] at stands
    cases stands
  obtain rfl : t = t₁ := Option.some.inj (stands.symm.trans (token?_chars proper shape))
  have shape' : s'.cursor.rest = t.chars ++ (left ++ [')']) := by rw [h.text, shape, List.append_assoc]
  have next := next_chars proper shape
  have next' := (next_chars proper shape').trans (checked_ok (enclosed_ne left))
  have taken' := take_ok next'
  rw [token?_chars proper shape'] at taken'
  rw [bind_of_ok taken']
  by_cases lone : left = ['\\']
  · rw [lone] at next taken'
    exact outcome_of_error (bind_of_error (take_error next) k) fun a u done =>
      (doomed_of_escaped (by rw [lone]; rfl)).further (enclosed _ a u done)
  · rw [checked_ok lone] at next
    have taken := take_ok next
    rw [stands] at taken
    rw [bind_of_ok taken]
    have shorter : left.length < n - 1 := by
      have bound := h.bound
      have some_chars : 1 ≤ t.chars.length := by cases t <;> exact Nat.le_add_left ..
      rw [shape, List.length_append] at bound
      omega
    exact (second _ _ (h.at lone shorter)).mono (Nat.sub_le n 1)

end

section
variable {escape : β → Prop} {lax : Bool} {n : Nat}

/-- Taking a token. At the end of the text the reader must stop, unless it may go on. -/
theorem tracks_take {k k' : Option Token → Reader β} (atEnd : Forward (k none) ∧ lax = true ∨ Fails (k none))
    (atEnd' : Forward (k' none)) (second : ∀ t, Tracks escape lax (n - 1) (k (some t)) (k' (some t))) :
    Tracks escape lax n (take >>= k) (take >>= k') where
  alone := forward_take.bind fun t => match t with
    | none => atEnd.elim And.left Fails.forward
    | some t => (second t).alone
  enclosed := forward_take.bind fun t => match t with
    | none => atEnd'
    | some t => (second t).enclosed
  outcome s s' h := by
    rcases h.token with ⟨ended, -⟩ | ⟨t, stands, -⟩
    · obtain ⟨one, t', two, ended'⟩ := h.take_end ended
      rw [bind_of_ok one, bind_of_ok two]
      refine .lost (fun a t done => ?_) fun a t done =>
        (doomed_of_ended ended').further ((second _).enclosed t' a t done)
      rcases atEnd with ⟨forward, allowed⟩ | fails
      · exact ⟨allowed, (forward s a t done).ended ended⟩
      · exact absurd done (fails.not_ok s _)
    · exact h.take_then stands (second t).enclosed fun u u' kept => (second t).outcome u u' kept

/-- Taking a token that must be there. -/
theorem tracks_take_some {k k' : Option Token → Reader β} (atEnd : Fails (k none)) (atEnd' : Fails (k' none))
    (second : ∀ t, Tracks escape lax (n - 1) (k (some t)) (k' (some t))) :
    Tracks escape lax n (take >>= k) (take >>= k') :=
  tracks_take (.inr atEnd) atEnd'.forward second

/-- A loop that takes a token in every round, with more rounds allowed than tokens are left. -/
theorem tracks_loop {ι : Type} {f f' : Nat → ι → Reader β} (idle : ∀ i, Forward (f 0 i)) (idle' : ∀ i, Forward (f' 0 i))
    (round : ∀ n k k', (∀ j ≤ n - 1, ∀ i, Tracks escape lax j (f k i) (f' k' i)) →
      ∀ i, Tracks escape lax n (f (k + 1) i) (f' (k' + 1) i)) :
    ∀ {n k k'}, n ≤ k → n ≤ k' → ∀ i, Tracks escape lax n (f k i) (f' k' i) := by
  have passed (k : Nat) : ∀ i, Tracks escape lax 0 (f k i) (f' k i) := by
    induction k with
    | zero => exact fun i => tracks_zero (idle i) (idle' i)
    | succ k ih => exact round 0 k k fun j none_left => by rw [Nat.le_zero.1 none_left]; exact ih
  intro n k k' enough enough'
  induction k generalizing n k' with
  | zero =>
    cases Nat.le_zero.1 enough
    exact fun i => tracks_zero (idle i) (passed k' i).enclosed
  | succ k ih =>
    cases k' with
    | zero =>
      cases Nat.le_zero.1 enough'
      exact fun i => tracks_zero (passed (k + 1) i).alone (idle' i)
    | succ k' => exact round n k k' fun j fewer => ih (by omega) (by omega)

/-- Looking for a token that is no closing parenthesis. -/
theorem tracks_peek {k k' : Option Token → Reader β} (second : ∀ t, Tracks escape lax n (k t) (k' t))
    (atEnd : k' (some (.plain ')')) = k' none) : Tracks escape lax n (peek >>= k) (peek >>= k') where
  alone := forward_peek fun t => (second t).alone
  enclosed := forward_peek fun t => (second t).enclosed
  outcome s s' h := by
    change Outcome escape lax n (k s.cursor.token? s) (k' s'.cursor.token? s')
    rcases h.token with ⟨-, one, two⟩ | ⟨t, one, two⟩
    · rw [one, two, atEnd]
      exact (second none).outcome s s' h
    · rw [one, two]
      exact (second (some t)).outcome s s' h

/-- Taking a character that is no closing parenthesis, if it stands here. -/
theorem tracks_accept_then {c : Char} {k k' : Bool → Reader β} (other : c ≠ ')')
    (yes : Tracks escape lax (n - 1) (k true) (k' true)) (no : Tracks escape lax n (k false) (k' false)) :
    Tracks escape lax n (accept c >>= k) (accept c >>= k') where
  alone := (forward_accept c).bind fun taken => match taken with
    | true => yes.alone
    | false => no.alone
  enclosed := (forward_accept c).bind fun taken => match taken with
    | true => yes.enclosed
    | false => no.enclosed
  outcome s s' h := by
    have same := h.token_of_ne (t := .plain c) fun same => other (Token.plain.inj same)
    by_cases stands : s.cursor.token? = some (.plain c)
    · rw [accept_bind_of_stands stands, accept_bind_of_stands (same.2 stands)]
      exact h.take_then stands yes.enclosed fun u u' kept => yes.outcome u u' kept
    · rw [bind_of_ok (accept_of_not stands), bind_of_ok (accept_of_not (mt same.1 stands))]
      exact no.outcome s s' h

theorem tracks_accept {escape : Bool → Prop} {c : Char} (other : c ≠ ')') :
    Tracks escape lax n (accept c) (accept c) := by
  have both : Tracks escape lax n (accept c >>= pure) (accept c >>= pure) :=
    tracks_accept_then other (tracks_pure true) (tracks_pure false)
  rwa [bind_pure] at both

/-- The parenthesis that closes a construct of the text is one of the text. -/
theorem tracks_closeAt {escape : Unit → Prop} (start start' : Nat) :
    Tracks escape false n (closeAt start) (closeAt start') where
  alone := forward_closeAt start
  enclosed := forward_closeAt start'
  outcome s s' h := by
    rcases h.token with ⟨ended, missing, two⟩ | ⟨t, one, two⟩
    · obtain ⟨-, t', taken, ended'⟩ := h.take_end ended
      rw [closeAt_of_stands two, bind_of_ok taken]
      exact outcome_of_error (closeAt_of_not (by rw [missing]; nofun)) fun a u done =>
        (doomed_of_ended ended').further (forward_pure () t' a u done)
    · by_cases paren : t = .plain ')'
      · rw [paren] at one two
        rw [closeAt_of_stands one, closeAt_of_stands two]
        exact h.take_then one (forward_pure ()) fun u u' kept => .same () u u' rfl rfl kept
      · have differs (u : State) (stands : u.cursor.token? = some t) : u.cursor.token? ≠ some (.plain ')') := by
          rw [stands]
          exact fun same => paren (Option.some.inj same)
        exact outcome_of_errors (closeAt_of_not (differs s one)) (closeAt_of_not (differs s' two))

theorem tracks_fail (what : Fault) (back back' : Nat) :
    Tracks escape lax n (fail what back : Reader β) (fail what back') :=
  tracks_fails (fails_fail what back) (fails_fail what back')

theorem tracks_failAt (what : Fault) (start start' : Nat) :
    Tracks escape lax n (failAt what start : Reader β) (failAt what start') :=
  tracks_fails (fails_failAt what start) (fails_failAt what start')

/-- Where a reader stops under a condition. -/
theorem tracks_guard {c : Prop} [Decidable c] {m m' : Reader α} {k k' : α → Reader β} {r r' : Reader β}
    (fails : Fails m) (fails' : Fails m') (passed : Tracks escape lax n r r') :
    Tracks escape lax n (if c then m >>= k else r) (if c then m' >>= k' else r') :=
  tracks_ite (tracks_fails (fails.bind k) (fails'.bind k')) passed

theorem tracks_unless {c : Prop} [Decidable c] {what : Fault} {back back' : Nat} {k k' : α → Reader β}
    {r r' : Reader β} (passed : Tracks escape lax n r r') :
    Tracks escape lax n (if c then fail what back >>= k else r) (if c then fail what back' >>= k' else r') :=
  tracks_guard (fails_fail what back) (fails_fail what back') passed

end

end Diagnosis.Pattern
