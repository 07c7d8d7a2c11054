import Diagnosis.Proofs.Pattern.Enclosed

/-!
# Escapes, sets and quantifiers with a parenthesis after the text

The readers of everything that has no pattern inside take the same steps whether
or not a closing parenthesis follows the text.
-/

namespace Diagnosis.Pattern

open Reader

variable {n : Nat}

/-! ## Runs of characters and names -/

section
variable {p : Char → Bool} {s : State}

theorem takeWhile_succ (k : Nat) :
    takeWhile p (k + 1) s = (match s.cursor.token? with
      | some (.plain c) => if p c then take >>= fun _ => takeWhile p k >>= fun cs => pure (c :: cs) else pure []
      | _ => pure [] : Reader (List Char)) s := rfl

theorem takeWhile_stops (stops : ∀ c, s.cursor.token? = some (.plain c) → p c = false) (k : Nat) :
    takeWhile p k s = .ok ([], s) := by
  cases k with
  | zero => rfl
  | succ k =>
    rw [takeWhile_succ]
    cases stands : s.cursor.token? with
    | none => rfl
    | some t =>
      cases t with
      | escaped _ => rfl
      | plain c =>
        simp only [stops c stands]
        rfl

theorem takeWhile_goes {c : Char} (stands : s.cursor.token? = some (.plain c)) (goes : p c = true) (k : Nat) :
    takeWhile p (k + 1) s = (take >>= fun _ => takeWhile p k >>= fun cs => pure (c :: cs) : Reader (List Char)) s := by
  rw [takeWhile_succ, stands]
  simp only [goes, if_true]

end

theorem forward_takeWhile (p : Char → Bool) (k : Nat) : Forward (takeWhile p k) := by
  induction k with
  | zero => exact forward_pure []
  | succ k ih =>
    refine forward_peek fun t => ?_
    split
    · exact forward_ite (forward_take.bind fun _ => ih.bind fun _ => forward_pure _) (forward_pure [])
    · exact forward_pure []

section
variable {escape : List Char → Prop} {lax : Bool} {p : Char → Bool} (paren : p ')' = false)
include paren

/-- A run that ends here ends here in both readings. -/
theorem takeWhile_ended {s s' : State} (h : Encloses n s s')
    (stops : ∀ c, s.cursor.token? = some (.plain c) → p c = false) (k k' : Nat) :
    Outcome escape lax n (takeWhile p k s) (takeWhile p k' s') := by
  have stops' (c : Char) (stands : s'.cursor.token? = some (.plain c)) : p c = false := by
    by_cases same : c = ')'
    · rw [same, paren]
    · exact stops c ((h.token_of_ne fun eq => same (Token.plain.inj eq)).1 stands)
  exact .same [] s s' (takeWhile_stops stops k) (takeWhile_stops stops' k') h

/-- A run of characters that has no parenthesis; its bounds are the same or no bounds at all. -/
theorem tracks_takeWhile {k k' : Nat} (bounds : k = k' ∨ n ≤ k + 1 ∧ n ≤ k' + 1) :
    Tracks escape lax n (takeWhile p k) (takeWhile p k') := by
  induction k generalizing k' n escape with
  | zero =>
    refine ⟨forward_takeWhile p 0, forward_takeWhile p k', fun s s' h => ?_⟩
    rcases bounds with rfl | ⟨small, -⟩
    · exact .same [] s s' rfl rfl h
    · have ended : s.cursor.rest = [] := List.length_eq_zero_iff.1 (by have bound := h.bound; omega)
      have nothing : s.cursor.token? = none := by rw [Cursor.token?, ended]
      refine takeWhile_ended paren h (fun c stands => ?_) 0 k'
      rw [nothing] at stands
      cases stands
  | succ k ih =>
    refine ⟨forward_takeWhile p _, forward_takeWhile p k', fun s s' h => ?_⟩
    by_cases goes : ∃ c, s.cursor.token? = some (.plain c) ∧ p c = true
    · obtain ⟨c, stands, goes⟩ := goes
      have other : Token.plain c ≠ .plain ')' := fun same => by rw [Token.plain.inj same, paren] at goes; cases goes
      have left := h.left stands
      obtain ⟨k', rfl⟩ : ∃ j, k' = j + 1 := ⟨k' - 1, by omega⟩
      rw [takeWhile_goes stands goes, takeWhile_goes ((h.token_of_ne other).2 stands) goes]
      refine h.take_then stands ((forward_takeWhile p k').bind fun _ => forward_pure _) fun u u' kept => ?_
      exact ((ih (by omega)).bind fun cs => tracks_pure (c :: cs)).outcome u u' kept
    · exact takeWhile_ended paren h
        (fun c stands => Bool.eq_false_iff.2 fun accepted => goes ⟨c, stands, accepted⟩) _ k'

end

/-! ### Names -/

theorem tracks_takeUntil {escape : List Char → Prop} {lax : Bool} (terminator : Char) (what : String)
    {fuel fuel' : Nat} (enough : n ≤ fuel) (enough' : n ≤ fuel') (read : List Char) :
    Tracks escape lax n (takeUntil terminator what fuel read) (takeUntil terminator what fuel' read) := by
  refine tracks_loop (fun _ => (fails_fail _ _).forward) (fun _ => (fails_fail _ _).forward) (fun n k k' ih read => ?_)
    enough enough' read
  have atEnd : Fails (if read.isEmpty then fail (.missingName what) 0
      else fail (.unterminatedName terminator) read.length : Reader (List Char)) :=
    fails_ite (fails_fail _ _) (fails_fail _ _)
  refine tracks_take_some atEnd atEnd fun t => tracks_ite ?_ (ih _ (Nat.le_refl _) _)
  exact tracks_ite (tracks_fail _ _ _) (tracks_pure read)

theorem tracks_name {escape : List Char → Prop} {lax : Bool} (terminator : Char) (what : String) :
    Tracks escape lax n (name terminator what) (name terminator what) :=
  tracks_size fun _ _ _ _ enough enough' => tracks_takeUntil terminator what enough enough' []

/-! ## References to groups -/

theorem tracks_isClosed {escape : Bool → Prop} {lax : Bool} (number : Nat) :
    Tracks escape lax n (isClosed number) (isClosed number) :=
  tracks_get fun s s' agree => by rw [agree.groups]; exact tracks_pure _

theorem tracks_checkBehind {escape : Unit → Prop} {lax : Bool} (number : Nat) :
    Tracks escape lax n (checkBehind number) (checkBehind number) := by
  refine tracks_get fun s s' agree => ?_
  rw [agree.behindFrom]
  cases s.behindFrom with
  | none => exact tracks_pure ()
  | some count =>
    refine (tracks_isClosed number).bind fun closed => ?_
    refine tracks_unless ?_
    exact tracks_ite (tracks_fail _ _ _) (tracks_pure ())

/-! ## Escapes -/

section
variable {escape : Nat → Prop} {lax : Bool}

theorem tracks_readHexEscape (letter : Char) (size : Nat) :
    Tracks escape lax n (readHexEscape letter size) (readHexEscape letter size) := by
  refine (tracks_takeWhile (by decide) (.inl rfl)).bind fun ds => ?_
  refine tracks_unless ?_
  refine tracks_guard (fails_throw _) (fails_throw _) ?_
  exact tracks_unless (tracks_pure _)

theorem tracks_readNamed : Tracks escape lax n readNamed readNamed := by
  refine (tracks_accept (by decide)).bind fun opened => ?_
  refine tracks_unless ?_
  refine (tracks_name _ _).bind fun cs => ?_
  cases Unicode.named? (String.ofList cs) with
  | some c => exact tracks_pure c
  | none => exact tracks_fail _ _ _

theorem tracks_readItself (c : Char) : Tracks escape lax n (readItself c) (readItself c) :=
  tracks_unless (tracks_pure _)

end

theorem tracks_readSpelled? {escape : Option Nat → Prop} {lax : Bool} (c : Char) :
    Tracks escape lax n (readSpelled? c) (readSpelled? c) := by
  have hexadecimal (size : Nat) : Tracks escape lax n (some <$> readHexEscape c size) (some <$> readHexEscape c size) :=
    (tracks_readHexEscape c size).bind fun code => tracks_pure (some code)
  refine tracks_ite (hexadecimal 2) (tracks_ite (hexadecimal 4) (tracks_ite (hexadecimal 8) (tracks_ite ?_ ?_)))
  · exact tracks_readNamed.bind fun code => tracks_pure (some code)
  · exact tracks_pure none

theorem tracks_readSetEscape {escape : Member → Prop} {lax : Bool} (m : Mode) (c : Char) :
    Tracks escape lax n (readSetEscape m c) (readSetEscape m c) := by
  unfold readSetEscape
  dsimp only
  cases controlOf? c with
  | some code => exact tracks_pure _
  | none =>
    cases categoryOf? m c with
    | some k => exact tracks_pure _
    | none =>
      refine (tracks_readSpelled? c).bind fun spelled => ?_
      cases spelled with
      | some code => exact tracks_pure _
      | none =>
        refine tracks_ite ?_ ?_
        · refine (tracks_takeWhile (by decide) (.inl rfl)).bind fun ds => ?_
          exact tracks_unless (tracks_pure _)
        · refine tracks_unless ?_
          exact (tracks_readItself c).bind fun code => tracks_pure _

theorem tracks_readReference {escape : Item → Prop} {lax : Bool} (m : Mode) (first : Char) :
    Tracks escape lax n (readReference m first) (readReference m first) := by
  refine (tracks_takeWhile (by decide) (.inl rfl)).bind fun second => ?_
  extract_lets complete
  have completed (third : List Char) : Tracks escape lax n (complete third) (complete third) := by
    refine tracks_ite (tracks_unless (tracks_pure _)) (tracks_get fun s s' agree => ?_)
    rw [agree.groups]
    split
    · exact tracks_fail _ _ _
    · exact tracks_fail _ _ _
    · exact (tracks_checkBehind _).bind fun _ => tracks_pure _
  refine tracks_ite ?_ (completed [])
  exact (tracks_takeWhile (by decide) (.inl rfl)).bind completed

theorem tracks_readEscape {escape : Item → Prop} {lax : Bool} (m : Mode) (c : Char) :
    Tracks escape lax n (readEscape m c) (readEscape m c) := by
  refine tracks_ite (tracks_pure _) (tracks_ite (tracks_pure _) (tracks_ite (tracks_pure _)
    (tracks_ite (tracks_pure _) ?_)))
  cases categoryOf? m c with
  | some k => exact tracks_pure _
  | none =>
    cases controlOf? c with
    | some code => exact tracks_pure _
    | none =>
      refine (tracks_readSpelled? c).bind fun spelled => ?_
      cases spelled with
      | some code => exact tracks_pure _
      | none =>
        refine tracks_ite ?_ (tracks_ite (tracks_readReference m c) ?_)
        · exact (tracks_takeWhile (by decide) (.inl rfl)).bind fun ds => tracks_pure _
        · exact (tracks_readItself c).bind fun code => tracks_pure _

/-! ## Sets -/

theorem tracks_readMember {escape : Member → Prop} {lax : Bool} (m : Mode) (t : Token) :
    Tracks escape lax n (readMember m t) (readMember m t) := by
  cases t with
  | plain c => exact tracks_pure _
  | escaped c => exact tracks_readSetEscape m c

theorem tracks_readMembers {escape : List Member → Prop} {lax : Bool} (m : Mode) (start start' : Nat)
    {fuel fuel' : Nat} (enough : n ≤ fuel) (enough' : n ≤ fuel') (read : List Member) :
    Tracks escape lax n (readMembers m start fuel read) (readMembers m start' fuel' read) := by
  refine tracks_loop (fun _ => (fails_failAt _ _).forward) (fun _ => (fails_failAt _ _).forward)
    (fun n k k' ih read => ?_) enough enough' read
  refine tracks_take_some (fails_failAt _ _) (fails_failAt _ _) fun this => tracks_ite (tracks_pure read) ?_
  refine (tracks_readMember m this).bind fun low => (tracks_accept (by decide)).bind fun hyphen => ?_
  refine tracks_ite ?_ (ih _ (Nat.le_refl _) _)
  refine tracks_take_some (fails_failAt _ _) (fails_failAt _ _) fun that => tracks_ite (tracks_pure _) ?_
  refine (tracks_readMember m that).bind fun high => ?_
  split
  · exact tracks_unless (ih _ (Nat.sub_le _ 1) _)
  · exact tracks_fail _ _ _

theorem tracks_readSet {escape : Item → Prop} {lax : Bool} (m : Mode) :
    Tracks escape lax n (readSet m) (readSet m) := by
  refine tracks_pos fun p p' => (tracks_accept (by decide)).bind fun other => ?_
  refine tracks_size fun j _ s s' enough enough' => ?_
  refine (tracks_readMembers m (p - 1) (p' - 1) enough enough' []).bind fun members => ?_
  split <;> exact tracks_pure _

/-! ## Quantifiers -/

theorem tracks_readCount {escape : Nat → Prop} {lax : Bool} (ds : List Char) :
    Tracks escape lax n (readCount ds) (readCount ds) :=
  tracks_guard (fails_throw _) (fails_throw _) (tracks_guard (fails_throw _) (fails_throw _) (tracks_pure _))

theorem tracks_readGreed {escape : Greed → Prop} {lax : Bool} : Tracks escape lax n readGreed readGreed :=
  (tracks_accept (by decide)).bind fun _ => tracks_ite (tracks_pure _) <|
    (tracks_accept (by decide)).bind fun _ => tracks_ite (tracks_pure _) (tracks_pure _)

theorem tracks_repeatLast {escape : List Item → Prop} {lax : Bool} (b : Bounds) (start start' : Nat)
    (items : List Item) : Tracks escape lax n (repeatLast b start items) (repeatLast b start' items) := by
  cases items with
  | nil => exact tracks_failAt _ _ _
  | cons i rest =>
    refine tracks_guard (fails_failAt _ _) (fails_failAt _ _) ?_
    refine tracks_guard (fails_failAt _ _) (fails_failAt _ _) ?_
    exact tracks_readGreed.bind fun greed => tracks_pure _

/-! ### Bounds in braces

What turns out to be no bounds is read again as it stands. A text that ends in a
backslash is at fault as soon as everything before it is taken; with a parenthesis
after it, it is not, but no parenthesis is left that closes anything. -/

/-- A reader takes no closing parenthesis. -/
def Spares {α : Type} (m : Reader α) : Prop := ∀ s a t, m s = .ok (a, t) → Doomed t.cursor → Doomed s.cursor

theorem Spares.bind {α β : Type} {m : Reader α} {k : α → Reader β} (first : Spares m) (second : ∀ a, Spares (k a)) :
    Spares (m >>= k) := by
  intro s b t done doomed
  obtain ⟨a, u, one, two⟩ := bind_ok done
  exact first s a u one (second a u b t two doomed)

theorem spares_pure {α : Type} (a : α) : Spares (pure a : Reader α) := by
  intro s b t done doomed
  cases done
  exact doomed

theorem doomed_of_take {s t : State} {o : Option Token} (stands : s.cursor.token? ≠ some (.plain ')'))
    (taken : take s = .ok (o, t)) (doomed : Doomed t.cursor) : Doomed s.cursor := by
  refine doomed_of_next stands fun d next => ?_
  rw [take_ok next] at taken
  cases taken
  exact doomed

theorem spares_accept {c : Char} (other : c ≠ ')') : Spares (accept c) := by
  intro s b t done doomed
  by_cases stands : s.cursor.token? = some (.plain c)
  · rw [accept_of_stands stands] at done
    obtain ⟨o, u, taken, rest⟩ := bind_ok done
    cases rest
    refine doomed_of_take (fun paren => ?_) taken doomed
    rw [stands] at paren
    exact other (Token.plain.inj (Option.some.inj paren))
  · rw [accept_of_not stands] at done
    cases done
    exact doomed

theorem spares_takeWhile {p : Char → Bool} (paren : p ')' = false) (k : Nat) : Spares (takeWhile p k) := by
  induction k with
  | zero => exact spares_pure []
  | succ k ih =>
    intro s cs t done doomed
    by_cases goes : ∃ c, s.cursor.token? = some (.plain c) ∧ p c = true
    · obtain ⟨c, stands, goes⟩ := goes
      rw [takeWhile_goes stands goes] at done
      obtain ⟨o, u, taken, rest⟩ := bind_ok done
      refine doomed_of_take (fun same => ?_) taken ((ih.bind fun _ => spares_pure _) u cs t rest doomed)
      rw [stands] at same
      rw [Token.plain.inj (Option.some.inj same), paren] at goes
      cases goes
    · rw [takeWhile_stops fun c stands => Bool.eq_false_iff.2 fun accepted => goes ⟨c, stands, accepted⟩] at done
      cases done
      exact doomed

/-- What may be bounds in braces: the digits of both, and whether a brace closes them. -/
def readBraced (limit : Nat) : Reader (List Char × List Char × Bool) := do
  let low ← takeWhile Char.isDigit limit
  let comma ← accept ','
  let high ← if comma then takeWhile Char.isDigit limit else pure low
  return (low, high, ← accept '\x7d')

/-- The bounds that digits in braces spell; the opening brace stood before a position. -/
def boundsOf (position : Nat) (low high : List Char) : Reader (Option Bounds) := do
  let least ← if low.isEmpty then pure 0 else readCount low
  if high.isEmpty then return some ⟨least, none⟩
  let most ← readCount high
  if most < least then failAt .repeatOrder position
  return some ⟨least, some most⟩

theorem readBounds?_eq : readBounds? = (do
    let here ← get
    if (← peek) == some (.plain '\x7d') then return none
    let r ← readBraced here.cursor.rest.length
    if ! r.2.2 then
      set here
      return none
    boundsOf here.cursor.pos r.1 r.2.1) := by
  unfold readBounds? readBraced boundsOf
  refine bind_congr fun here => bind_congr fun t => ?_
  split
  · rfl
  · simp only [bind_assoc, pure_bind]
    refine bind_congr fun low => bind_congr fun comma => ?_
    cases comma <;> simp only [bind_assoc, pure_bind, if_true, if_false, Bool.false_eq_true]

section
variable {s : State}

/-- Digits in braces are no bounds without a brace that closes them. -/
def braced (s : State) (r : List Char × List Char × Bool) : Reader (Option Bounds) :=
  if r.2.2 then boundsOf s.cursor.pos r.1 r.2.1
  else do
    set s
    return none

theorem readBounds?_at (s : State) : readBounds? s = (if s.cursor.token? == some (.plain '\x7d') then pure none
    else readBraced s.cursor.rest.length >>= braced s : Reader (Option Bounds)) s := by
  have unfolded := congrFun readBounds?_eq s
  rw [unfolded]
  refine ite_eq (fun _ => rfl) fun _ => congrFun (bind_congr fun r => ?_) s
  unfold braced
  cases r.2.2 <;> rfl

theorem readBounds?_empty (stands : s.cursor.token? = some (.plain '\x7d')) : readBounds? s = .ok (none, s) := by
  rw [readBounds?_at, if_pos (beq_iff_eq.2 stands)]
  rfl

theorem readBounds?_apply (stands : s.cursor.token? ≠ some (.plain '\x7d')) :
    readBounds? s = (readBraced s.cursor.rest.length >>= braced s) s := by
  rw [readBounds?_at, if_neg fun same => stands (beq_iff_eq.1 same)]

end

section
variable {lax : Bool}

theorem tracks_readBraced {escape : List Char × List Char × Bool → Prop} {limit limit' : Nat}
    (bounds : n ≤ limit + 1 ∧ n ≤ limit' + 1) : Tracks escape lax n (readBraced limit) (readBraced limit') := by
  refine (tracks_takeWhile (by decide) (.inr bounds)).bind fun low => (tracks_accept (by decide)).bind fun comma => ?_
  have closed (high : List Char) : Tracks escape lax n (accept '\x7d' >>= fun closed => pure (low, high, closed))
      (accept '\x7d' >>= fun closed => pure (low, high, closed)) :=
    (tracks_accept (by decide)).bind fun closed => tracks_pure _
  exact tracks_ite ((tracks_takeWhile (by decide) (.inr bounds)).bind closed) (closed low)

theorem tracks_boundsOf {escape : Option Bounds → Prop} (position position' : Nat) (low high : List Char) :
    Tracks escape lax n (boundsOf position low high) (boundsOf position' low high) := by
  unfold boundsOf
  extract_lets complete complete'
  have completed (least : Nat) : Tracks escape lax n (complete least) (complete' least) :=
    tracks_ite (tracks_pure _) <| (tracks_readCount high).bind fun most =>
      tracks_guard (fails_failAt _ _) (fails_failAt _ _) (tracks_pure _)
  exact tracks_ite (completed 0) ((tracks_readCount low).bind completed)

end

theorem spares_readBraced (limit : Nat) : Spares (readBraced limit) := by
  refine (spares_takeWhile (by decide) limit).bind fun low => (spares_accept (by decide)).bind fun comma => ?_
  have closed (high : List Char) : Spares (accept '\x7d' >>= fun closed => pure (low, high, closed)) :=
    (spares_accept (by decide)).bind fun closed => spares_pure _
  cases comma with
  | true => exact (spares_takeWhile (by decide) limit).bind closed
  | false => exact closed low

/-- What is read in braces, or nothing. -/
theorem braced_cases {s u t : State} {r : List Char × List Char × Bool} {b : Option Bounds}
    (done : braced s r u = .ok (b, t)) : u.cursor.Reaches t.cursor ∨ t = s := by
  unfold braced at done
  split at done
  · have forward : Tracks never false 0 _ _ := tracks_boundsOf s.cursor.pos s.cursor.pos r.1 r.2.1
    exact .inl (forward.alone u b t done)
  · cases done
    exact .inr rfl

theorem forward_readBounds? : Forward readBounds? := by
  intro s b t done
  by_cases stands : s.cursor.token? = some (.plain '\x7d')
  · rw [readBounds?_empty stands] at done
    cases done
    exact .here _
  · rw [readBounds?_apply stands] at done
    obtain ⟨r, u, one, two⟩ := bind_ok done
    rcases braced_cases two with further | rfl
    · have forward (l : Nat) : Tracks never false 0 (readBraced l) (readBraced l) :=
        tracks_readBraced ⟨Nat.zero_le _, Nat.zero_le _⟩
      exact ((forward _).alone s r u one).trans further
    · exact .here _

theorem tracks_readBounds? {escape : Option Bounds → Prop} {lax : Bool} :
    Tracks escape lax n readBounds? readBounds? where
  alone := forward_readBounds?
  enclosed := forward_readBounds?
  outcome s s' h := by
    have brace := h.token_of_ne (t := .plain '\x7d') (by decide)
    by_cases stands : s.cursor.token? = some (.plain '\x7d')
    · exact .same none s s' (readBounds?_empty stands) (readBounds?_empty (brace.2 stands)) h
    rw [readBounds?_apply stands, readBounds?_apply (mt brace.1 stands)]
    have longer : s'.cursor.rest.length = s.cursor.rest.length + 1 := by rw [h.text]; simp
    have both : Tracks never false (s.cursor.rest.length + 1) (readBraced s.cursor.rest.length)
        (readBraced s'.cursor.rest.length) := tracks_readBraced ⟨Nat.le_refl _, by omega⟩
    cases both.outcome s s' { h with bound := Nat.lt_succ_self _ } with
    | same r u u' one two kept =>
      rw [bind_of_ok one, bind_of_ok two]
      unfold braced
      split
      · exact (tracks_boundsOf _ _ _ _).outcome u u' (kept.mono h.bound)
      · exact .same none s s' rfl rfl h
    | escaped r u u' out => exact out.elim
    | lost one two =>
      refine .lost (fun b t done => ?_) fun b t done => ?_
      · obtain ⟨r, u, done, _⟩ := bind_ok done
        cases (one r u done).1
      · obtain ⟨r, u, done, rest⟩ := bind_ok done
        rcases braced_cases rest with further | rfl
        · exact (two r u done).further further
        · exact spares_readBraced _ _ r u done (two r u done)

end Diagnosis.Pattern
