import Diagnosis.Pattern.Reader

/-!
# Steps of a reader

How a reader of a pattern goes from one state to the next: which places of the
text it can get to, what it takes there, where it stops, and how readers follow
one another.
-/

namespace Diagnosis.Pattern

open Reader

variable {α β : Type}

/-! ## Where a reader can get to -/

/-- One place is reached from another by taking tokens. -/
inductive Cursor.Reaches : Cursor → Cursor → Prop where
  | here (c : Cursor) : Reaches c c
  | next {c d e : Cursor} : Reaches c d → d.next = .ok e → Reaches c e

theorem Cursor.Reaches.trans {c d e : Cursor} (first : Reaches c d) (second : Reaches d e) : Reaches c e := by
  induction second with
  | here => exact first
  | next _ taken ih => exact .next ih taken

theorem Cursor.Reaches.first {c e : Cursor} (reached : Reaches c e) :
    c = e ∨ ∃ d, c.next = .ok d ∧ Reaches d e := by
  induction reached with
  | here => exact .inl rfl
  | next _ taken ih =>
    rcases ih with rfl | ⟨d, first, further⟩
    · exact .inr ⟨_, taken, .here _⟩
    · exact .inr ⟨d, first, further.next taken⟩

theorem Cursor.Reaches.ended {c d : Cursor} (reached : Reaches c d) (ended : c.rest = []) : d.rest = [] := by
  induction reached with
  | here => exact ended
  | @next d e _ taken ih =>
    have stays : d.next = .ok d := by rw [Cursor.next, Cursor.token?, ih]
    rw [stays] at taken
    cases taken
    exact ih

/-- No parenthesis can be closed from here on: none that is not escaped is left. -/
def Doomed (c : Cursor) : Prop := ∀ d, c.Reaches d → d.token? ≠ some (.plain ')')

theorem Doomed.further {c d : Cursor} (doomed : Doomed c) (reached : c.Reaches d) : Doomed d :=
  fun _ onward => doomed _ (reached.trans onward)

theorem doomed_of_ended {c : Cursor} (ended : c.rest = []) : Doomed c := by
  intro d reached stands
  rw [Cursor.token?, reached.ended ended] at stands
  cases stands

theorem doomed_of_next {c : Cursor} (stands : c.token? ≠ some (.plain ')')) (next : ∀ d, c.next = .ok d → Doomed d) :
    Doomed c := by
  intro e reached
  rcases reached.first with rfl | ⟨d, taken, further⟩
  · exact stands
  · exact next d taken e further

/-- An escaped parenthesis closes nothing. -/
theorem doomed_of_escaped {c : Cursor} (left : c.rest = ['\\', ')']) : Doomed c := by
  refine doomed_of_next (by rw [Cursor.token?, left]; decide) fun d taken => ?_
  rw [Cursor.next, Cursor.token?, left] at taken
  cases taken
  exact doomed_of_ended rfl

/-! ## What stands in a text -/

/-- A text that is no lone backslash is empty or begins with a token. -/
theorem chars_cases {rest : List Char} (whole : rest ≠ ['\\']) :
    rest = [] ∨ ∃ t left, rest = Token.chars t ++ left ∧ t ≠ .plain '\\' := by
  match rest, whole with
  | [], _ => exact .inl rfl
  | c :: left, whole =>
    by_cases slash : c = '\\'
    · match left with
      | [] => exact absurd (by rw [slash]) whole
      | d :: left => exact .inr ⟨.escaped d, left, by rw [slash]; rfl, nofun⟩
    · exact .inr ⟨.plain c, left, rfl, fun same => slash (Token.plain.inj same)⟩

section
variable {c : Cursor} {t : Token} {left : List Char} (proper : t ≠ .plain '\\') (shape : c.rest = t.chars ++ left)
include proper shape

theorem token?_chars : c.token? = some t := by
  unfold Cursor.token?
  rw [shape]
  cases t with
  | escaped d => rfl
  | plain d =>
    have differs : d ≠ '\\' := fun same => proper (by rw [same])
    simp [Token.chars, differs]

theorem next_chars : c.next = Cursor.checked ⟨left, c.pos + t.length⟩ := by
  have dropped : (t.chars ++ left).drop t.length = left := by cases t <;> rfl
  rw [Cursor.next, token?_chars proper shape]
  simp only [shape, dropped]

end

theorem checked_ok {c : Cursor} (whole : c.rest ≠ ['\\']) : c.checked = .ok c := by
  unfold Cursor.checked
  split
  · exact absurd ‹_› whole
  · rfl

/-! ## One reader after the other -/

theorem bind_apply (m : Reader α) (k : α → Reader β) (s : State) :
    (m >>= k) s = (m s).bind fun r => k r.1 r.2 := rfl

theorem bind_get (k : State → Reader α) (s : State) : (get >>= k) s = k s s := rfl

theorem bind_of_ok {m : Reader α} {s t : State} {a : α} (done : m s = .ok (a, t)) (k : α → Reader β) :
    (m >>= k) s = k a t := by
  rw [bind_apply, done]
  rfl

theorem bind_of_error {m : Reader α} {s : State} {e : Error} (failed : m s = .error e) (k : α → Reader β) :
    (m >>= k) s = .error e := by
  rw [bind_apply, failed]
  rfl

theorem bind_at {m m' : Reader α} {s s' : State} (same : m s = m' s') (k : α → Reader β) :
    (m >>= k) s = (m' >>= k) s' := by
  rw [bind_apply, same, ← bind_apply]

theorem bind_ok {m : Reader α} {k : α → Reader β} {s t : State} {b : β} (done : (m >>= k) s = .ok (b, t)) :
    ∃ a u, m s = .ok (a, u) ∧ k a u = .ok (b, t) := by
  cases first : m s with
  | error e => rw [bind_of_error first] at done; cases done
  | ok r => exact ⟨r.1, r.2, rfl, by rwa [bind_of_ok (a := r.1) (t := r.2) first] at done⟩

theorem bind_eq {m : Reader α} {s : State} {k k' : α → Reader β} (same : ∀ a t, m s = .ok (a, t) → k a t = k' a t) :
    (m >>= k) s = (m >>= k') s := by
  cases first : m s with
  | error e => rw [bind_of_error first, bind_of_error first]
  | ok r =>
    rw [bind_of_ok (a := r.1) (t := r.2) first, bind_of_ok (a := r.1) (t := r.2) first]
    exact same r.1 r.2 first

theorem ite_eq {c : Prop} [Decidable c] {s : State} {m m' k k' : Reader α} (yes : c → m s = m' s) (no : ¬ c → k s = k' s) :
    (if c then m else k) s = (if c then m' else k') s := by
  split
  · exact yes ‹_›
  · exact no ‹_›

/-! ## Readers that stop -/

/-- A reader stops at a fault wherever it begins. -/
def Fails (m : Reader α) : Prop := ∀ s, ∃ e, m s = .error e

/-- A reader stops at a fault when nothing is left. -/
def NeedsText (m : Reader α) : Prop := ∀ s, s.cursor.rest = [] → ∃ e, m s = .error e

/-- A reader that stops gives nothing. -/
theorem Fails.not_ok {m : Reader α} (fails : Fails m) (s : State) (r : α × State) : m s ≠ .ok r := by
  obtain ⟨e, failed⟩ := fails s
  rw [failed]
  nofun

theorem fails_throw (e : Error) : Fails (throw e : Reader α) := fun _ => ⟨e, rfl⟩

theorem fails_fail (what : Fault) (back : Nat) : Fails (fail what back : Reader α) := fun _ => ⟨_, rfl⟩

theorem fails_failAt (what : Fault) (position : Nat) : Fails (failAt what position : Reader α) := fun _ => ⟨_, rfl⟩

theorem fails_ite {c : Prop} [Decidable c] {m k : Reader α} (yes : Fails m) (no : Fails k) :
    Fails (if c then m else k) := by
  split
  · exact yes
  · exact no

theorem Fails.bind {m : Reader α} (fails : Fails m) (k : α → Reader β) : Fails (m >>= k) := by
  intro s
  obtain ⟨e, failed⟩ := fails s
  exact ⟨e, bind_of_error failed k⟩

theorem NeedsText.bind {m : Reader α} (needs : NeedsText m) (k : α → Reader β) : NeedsText (m >>= k) := by
  intro s ended
  obtain ⟨e, failed⟩ := needs s ended
  exact ⟨e, bind_of_error failed k⟩

/-- A reader that gives something has passed what it refuses. -/
theorem passed_guard {c : Prop} [Decidable c] {m : Reader β} {k : β → Reader α} {r : Reader α} {s : State}
    {x : α × State} (fails : Fails m) (done : (if c then m >>= k else r) s = .ok x) : r s = .ok x := by
  split at done
  · exact absurd done ((fails.bind k).not_ok s x)
  · exact done

/-! ## Readers that only take tokens -/

/-- A reader only takes tokens. -/
def Forward (m : Reader α) : Prop := ∀ s a t, m s = .ok (a, t) → s.cursor.Reaches t.cursor

/-- A reader leaves the text where it is. -/
theorem forward_of_stays {m : Reader α} (stays : ∀ s a t, m s = .ok (a, t) → t.cursor = s.cursor) : Forward m := by
  intro s a t done
  rw [stays s a t done]
  exact .here _

theorem forward_pure (a : α) : Forward (pure a : Reader α) := by
  refine forward_of_stays fun s b t done => ?_
  cases done
  rfl

theorem Fails.forward {m : Reader α} (fails : Fails m) : Forward m :=
  fun s _ _ done => absurd done (fails.not_ok s _)

theorem Forward.bind {m : Reader α} {k : α → Reader β} (first : Forward m) (second : ∀ a, Forward (k a)) :
    Forward (m >>= k) := by
  intro s b t done
  obtain ⟨a, u, one, two⟩ := bind_ok done
  exact (first s a u one).trans (second a u b t two)

theorem forward_get {k : State → Reader α} (second : ∀ s, Forward (k s)) : Forward (get >>= k) :=
  fun s _ _ done => second s s _ _ done

theorem forward_pos {k : Nat → Reader α} (second : ∀ p, Forward (k p)) : Forward (pos >>= k) :=
  fun s _ _ done => second s.cursor.pos s _ _ done

theorem forward_peek {k : Option Token → Reader α} (second : ∀ t, Forward (k t)) : Forward (peek >>= k) :=
  fun s _ _ done => second s.cursor.token? s _ _ done

theorem forward_modify {f : State → State} (kept : ∀ s, (f s).cursor = s.cursor) :
    Forward (modify f : Reader Unit) := by
  refine forward_of_stays fun s a t done => ?_
  cases done
  exact kept s

theorem forward_ite {c : Prop} [Decidable c] {m n : Reader α} (yes : Forward m) (no : Forward n) :
    Forward (if c then m else n) := by
  split
  · exact yes
  · exact no

/-! ### Taking what stands here -/

theorem take_apply (s : State) :
    take s = s.cursor.next.map fun c => (s.cursor.token?, { s with cursor := c }) := by
  change ((liftM s.cursor.next : Reader Cursor) >>= fun c =>
    (set { s with cursor := c } >>= fun _ => pure s.cursor.token? : Reader (Option Token))) s = _
  cases s.cursor.next <;> rfl

theorem take_ok {s : State} {c : Cursor} (stepped : s.cursor.next = .ok c) :
    take s = .ok (s.cursor.token?, { s with cursor := c }) := by
  rw [take_apply, stepped]
  rfl

theorem take_error {s : State} {e : Error} (stepped : s.cursor.next = .error e) : take s = .error e := by
  rw [take_apply, stepped]
  rfl

/-- What is taken stood at the beginning of the text. -/
theorem take_some {s u : State} {t : Token} (taken : take s = .ok (some t, u)) :
    s.cursor.rest = t.chars ++ u.cursor.rest ∧ t ≠ .plain '\\' := by
  cases next : s.cursor.next with
  | error e => rw [take_error next] at taken; cases taken
  | ok c =>
    rw [take_ok next] at taken
    obtain ⟨stands, rfl⟩ := Prod.mk.inj (Except.ok.inj taken)
    have whole : s.cursor.rest ≠ ['\\'] := by
      intro lone
      rw [Cursor.token?, lone] at stands
      cases stands
    rcases chars_cases whole with ended | ⟨t₁, left, shape, proper⟩
    · rw [Cursor.token?, ended] at stands
      cases stands
    · obtain rfl : t₁ = t := Option.some.inj ((token?_chars proper shape).symm.trans stands)
      rw [next_chars proper shape, Cursor.checked] at next
      split at next
      · cases next
      · cases next
        exact ⟨shape, proper⟩

theorem take_token {s u : State} {o : Option Token} (taken : take s = .ok (o, u)) : o = s.cursor.token? := by
  cases next : s.cursor.next with
  | error e => rw [take_error next] at taken; cases taken
  | ok c =>
    rw [take_ok next] at taken
    cases taken
    rfl

theorem forward_take : Forward take := by
  intro s a t done
  cases stepped : s.cursor.next with
  | error e => rw [take_error stepped] at done; cases done
  | ok c =>
    rw [take_ok stepped] at done
    cases done
    exact .next (.here _) stepped

theorem accept_apply (c : Char) (s : State) : accept c s = (if s.cursor.token? == some (.plain c) then
    (take >>= fun _ => pure true : Reader Bool) else pure false : Reader Bool) s := rfl

theorem accept_of_stands {s : State} {c : Char} (stands : s.cursor.token? = some (.plain c)) :
    accept c s = (take >>= fun _ => pure true : Reader Bool) s := by
  rw [accept_apply, if_pos (beq_iff_eq.2 stands)]

theorem accept_of_not {s : State} {c : Char} (stands : s.cursor.token? ≠ some (.plain c)) :
    accept c s = .ok (false, s) := by
  rw [accept_apply, if_neg (fun same => stands (beq_iff_eq.1 same))]
  rfl

theorem accept_bind_of_stands {s : State} {c : Char} {k : Bool → Reader β}
    (stands : s.cursor.token? = some (.plain c)) : (accept c >>= k) s = (take >>= fun _ => k true) s := by
  rw [bind_at (accept_of_stands stands) k, bind_assoc]
  simp only [pure_bind]

theorem closeAt_of_stands {s : State} {start : Nat} (stands : s.cursor.token? = some (.plain ')')) :
    closeAt start s = (take >>= fun _ => pure () : Reader Unit) s := accept_bind_of_stands stands

theorem closeAt_of_not {s : State} {start : Nat} (stands : s.cursor.token? ≠ some (.plain ')')) :
    closeAt start s = .error (.place .unterminatedGroup start) := by
  rw [closeAt, bind_of_ok (accept_of_not stands)]
  rfl

theorem forward_accept (c : Char) : Forward (accept c) :=
  forward_peek fun _ => forward_ite (forward_take.bind fun _ => forward_pure true) (forward_pure false)

theorem forward_closeAt (start : Nat) : Forward (closeAt start) :=
  (forward_accept ')').bind fun _ => forward_ite (fails_failAt _ _).forward (forward_pure ())

theorem needsText_closeAt (start : Nat) : NeedsText (closeAt start) := by
  intro s ended
  refine ⟨_, closeAt_of_not fun stands => ?_⟩
  rw [Cursor.token?, ended] at stands
  cases stands

theorem needsText_peek {k : Option Token → Reader β} (needs : NeedsText (k none)) : NeedsText (peek >>= k) := by
  intro s ended
  have nothing : s.cursor.token? = none := by rw [Cursor.token?, ended]
  change ∃ e, k s.cursor.token? s = .error e
  rw [nothing]
  exact needs s ended

theorem needsText_accept {c : Char} {k : Bool → Reader β} (needs : NeedsText (k false)) :
    NeedsText (accept c >>= k) := by
  intro s ended
  have nothing : s.cursor.token? ≠ some (.plain c) := by rw [Cursor.token?, ended]; nofun
  rw [bind_of_ok (accept_of_not nothing)]
  exact needs s ended

/-! ## What a reader gives -/

/-- Every result of a reader is of a kind. -/
def Yields (p : α → Prop) (m : Reader α) : Prop := ∀ s a t, m s = .ok (a, t) → p a

/-- What a reader gives when it begins with some state. -/
def Gives (m : Reader α) (s : State) (p : α → State → Prop) : Prop := ∀ a t, m s = .ok (a, t) → p a t

theorem gives_ite {c : Prop} [Decidable c] {m k : Reader α} {s : State} {p : α → State → Prop}
    (yes : Gives m s p) (no : Gives k s p) : Gives (if c then m else k) s p := by
  split
  · exact yes
  · exact no

theorem Fails.gives {m : Reader α} (fails : Fails m) {s : State} {p : α → State → Prop} : Gives m s p :=
  fun _ _ done => absurd done (fails.not_ok s _)

section
variable {p : α → Prop}

theorem yields_pure {a : α} (holds : p a) : Yields p (pure a : Reader α) := by
  intro s b t done
  cases done
  exact holds

theorem yields_bind {m : Reader β} {k : β → Reader α} (second : ∀ b, Yields p (k b)) : Yields p (m >>= k) := by
  intro s a t done
  obtain ⟨b, u, -, two⟩ := bind_ok done
  exact second b u a t two

theorem Fails.yields {m : Reader α} (fails : Fails m) : Yields p m :=
  fun s _ _ done => absurd done (fails.not_ok s _)

theorem yields_ite {c : Prop} [Decidable c] {m k : Reader α} (yes : Yields p m) (no : Yields p k) :
    Yields p (if c then m else k) := by
  split
  · exact yes
  · exact no

end

end Diagnosis.Pattern
