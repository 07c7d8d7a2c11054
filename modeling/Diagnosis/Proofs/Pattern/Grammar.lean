import Diagnosis.Proofs.Pattern.Constructs

/-!
# The grammar with a parenthesis after the text

Alternatives, sequences and constructs are read together. Each of them takes a
token before it calls itself again, so four rounds for every character that is
left are enough, and with enough rounds both readings take the same steps.
-/

namespace Diagnosis.Pattern

open Reader

/-! ## What a sequence does with a token -/

/-- Whether a sequence ends before what stands here. -/
def endsSequence : Option Token → Bool
  | none => true
  | some (.escaped _) => false
  | some (.plain c) => c == '|' || c == ')'

/-- What a sequence does with a token that has been taken, and with what follows it. -/
def goOn (mode : Mode) (first : Bool) (fuel : Nat) (read : List Item) (start : Nat) : Token → Reader Item
  | .escaped c => do
    let i ← readEscape mode c
    readSequence mode first fuel (i :: read)
  | .plain c => do
    if mode.verbose && isAsciiSpace c.toNat then readSequence mode first fuel read
    else if mode.verbose && c == '#' then
      skipLine ((← get).cursor.rest.length + 1)
      readSequence mode first fuel read
    else if c == '[' then
      let i ← readSet mode
      readSequence mode first fuel (i :: read)
    else if c == '?' then
      let read ← repeatLast ⟨0, some 1⟩ start read
      readSequence mode first fuel read
    else if c == '*' then
      let read ← repeatLast ⟨0, none⟩ start read
      readSequence mode first fuel read
    else if c == '+' then
      let read ← repeatLast ⟨1, none⟩ start read
      readSequence mode first fuel read
    else if c == '\x7b' then
      match ← readBounds? with
      | some b =>
        let read ← repeatLast b start read
        readSequence mode first fuel read
      | none => readSequence mode first fuel (.literal mode c.toNat :: read)
    else if c == '.' then readSequence mode first fuel (.ofTest (.any mode.dotAll) :: read)
    else if c == '^' then
      readSequence mode first fuel (.anchored (if mode.multiline then .lineStart else .textStart) :: read)
    else if c == '$' then
      readSequence mode first fuel (.anchored (if mode.multiline then .lineEnd else .lastLineEnd) :: read)
    else if c == '(' then
      match ← readConstruct mode start fuel with
      | .item i => readSequence mode first fuel (i :: read)
      | .nothing => readSequence mode first fuel read
      | .options =>
        if ! first || ! read.isEmpty then failAt .lateFlags start
        readSequence (← get).globals first fuel read
    else readSequence mode first fuel (.literal mode c.toNat :: read)

section
variable {mode : Mode} {first : Bool} {fuel : Nat} {read : List Item} {s : State}

/-- A sequence ends here. -/
theorem readSequence_end (ends : endsSequence s.cursor.token? = true) :
    readSequence mode first (fuel + 1) read s = .ok (.sequence read.reverse, s) := by
  rw [readSequence]
  change (match s.cursor.token? with
    | none => _
    | some (.escaped c) => _
    | some (.plain c) => _ : Reader Item) s = _
  cases stands : s.cursor.token? with
  | none => rfl
  | some t =>
    rw [stands] at ends
    cases t with
    | escaped c => cases ends
    | plain c =>
      have closes : (c == '|' || c == ')') = true := ends
      simp only [closes, if_true]
      rfl

/-- A sequence goes on with the token that stands here. -/
theorem readSequence_on {t : Token} (stands : s.cursor.token? = some t) (goes : endsSequence (some t) = false) :
    readSequence mode first (fuel + 1) read s =
      (take >>= fun _ => goOn mode first fuel read s.cursor.pos t) s := by
  rw [readSequence]
  change (match s.cursor.token? with
    | none => _
    | some (.escaped c) => _
    | some (.plain c) => _ : Reader Item) s = _
  rw [stands]
  cases t with
  | escaped c => rfl
  | plain c =>
    have stays : (c == '|' || c == ')') = false := goes
    simp only [stays]
    rfl

theorem forward_readSequence (on : ∀ start t, Forward (goOn mode first fuel read start t)) :
    Forward (readSequence mode first (fuel + 1) read) := by
  intro s i u done
  cases ends : endsSequence s.cursor.token? with
  | true =>
    rw [readSequence_end ends] at done
    cases done
    exact .here _
  | false =>
    cases stands : s.cursor.token? with
    | none => rw [stands] at ends; cases ends
    | some t =>
      rw [stands] at ends
      rw [readSequence_on stands ends] at done
      exact (forward_take.bind fun _ => on _ t) s i u done

end

theorem readAlternatives_nested (mode : Mode) (fuel : Nat) (read : List Item) :
    readAlternatives mode true (fuel + 1) read = (do
      let i ← readSequence mode false fuel []
      if ← accept '|' then readAlternatives mode true fuel (i :: read)
      else return .alternatives (i :: read).reverse) := by
  rw [readAlternatives]
  rfl

/-! ## Both readings -/

/-- Enough rounds in both readings for what is left of the text, `extra` of them on the way down
from alternatives to a construct. -/
def Enough (extra n fuel fuel' : Nat) : Prop := n = 0 ∨ 4 * n + extra ≤ fuel + 4 ∧ 4 * n + extra ≤ fuel' + 4

/-- The readers of the grammar in both readings. -/
structure Alike (fuel fuel' : Nat) : Prop where
  sequence (n : Nat) (mode : Mode) (read : List Item) (enough : Enough 1 n fuel fuel') :
    Tracks never mode.verbose n (readSequence mode false fuel read) (readSequence mode false fuel' read)
  alternatives (n : Nat) (mode : Mode) (read : List Item) (enough : Enough 2 n fuel fuel') :
    Tracks never mode.verbose n (readAlternatives mode true fuel read) (readAlternatives mode true fuel' read)
  group (n : Nat) (form : GroupForm) (start start' : Nat) (enough : Enough 3 n fuel fuel') :
    Tracks never false n (readGroup form start fuel) (readGroup form start' fuel')
  look (n : Nat) (mode : Mode) (behind absent : Bool) (start start' : Nat) (enough : Enough 3 n fuel fuel') :
    Tracks never false n (readLook mode behind absent start fuel) (readLook mode behind absent start' fuel')
  construct (n : Nat) (mode : Mode) (start start' : Nat) (enough : Enough 4 n fuel fuel') :
    Tracks (· = Construct.options) false n (readConstruct mode start fuel) (readConstruct mode start' fuel')

section
variable {n fuel fuel' : Nat}

theorem Enough.less {extra n j fuel fuel' : Nat} (h : Enough extra n fuel fuel') (le : j ≤ n) :
    Enough extra j fuel fuel' := by
  unfold Enough at *
  omega

/-- One token and one round less. -/
theorem Enough.next {extra : Nat} (h : Enough 1 n (fuel + 1) (fuel' + 1)) (few : extra ≤ 4) :
    Enough extra (n - 1) fuel fuel' := by
  unfold Enough at *
  omega

theorem Enough.down {extra : Nat} (h : Enough (extra + 1) n (fuel + 1) (fuel' + 1)) : Enough extra n fuel fuel' := by
  unfold Enough at *
  omega

variable (alike : Alike fuel fuel')
include alike

theorem tracks_goOn (mode : Mode) (read : List Item) (start start' : Nat) (t : Token)
    (enough : ∀ extra ≤ 4, Enough extra n fuel fuel') :
    Tracks never mode.verbose n (goOn mode false fuel read start t) (goOn mode false fuel' read start' t) := by
  have onward (read : List Item) := alike.sequence n mode read (enough 1 (by decide))
  have repeated (b : Bounds) : Tracks never mode.verbose n
      (repeatLast b start read >>= readSequence mode false fuel)
      (repeatLast b start' read >>= readSequence mode false fuel') := (tracks_repeatLast _ _ _ _).bind onward
  cases t with
  | escaped c => exact (tracks_readEscape mode c).bind fun i => onward _
  | plain c =>
    refine tracks_ite (onward read) (tracks_ite_of (fun comment => ?_) fun _ => ?_)
    · have lax : mode.verbose = true := (Bool.and_eq_true_iff.1 comment).1
      rw [lax] at onward ⊢
      refine tracks_size fun j fewer s s' left left' => (tracks_skipLine left left').bind fun _ => ?_
      have further := alike.sequence j mode read ((enough 1 (by decide)).less fewer)
      rwa [lax] at further
    · refine tracks_ite ((tracks_readSet mode).bind fun i => onward _) ?_
      refine tracks_ite (repeated _) (tracks_ite (repeated _) (tracks_ite (repeated _) (tracks_ite ?_ ?_)))
      · refine tracks_readBounds?.bind fun b => ?_
        cases b with
        | some b => exact repeated b
        | none => exact onward _
      · refine tracks_ite (onward _) (tracks_ite (onward _) (tracks_ite (onward _) (tracks_ite ?_ (onward _))))
        have construct := alike.construct n mode start start' (enough 4 (by decide))
        refine (construct.loosen _).bind_escape (fun c => ?_) fun c options s s' => ?_
        · cases c with
          | item i => exact onward _
          | nothing => exact onward _
          | options => exact tracks_fails ((fails_failAt _ _).bind _) ((fails_failAt _ _).bind _)
        · rw [options]
          exact outcome_of_errors rfl rfl

theorem tracks_readSequence (mode : Mode) (read : List Item) (enough : Enough 1 n (fuel + 1) (fuel' + 1)) :
    Tracks never mode.verbose n (readSequence mode false (fuel + 1) read)
      (readSequence mode false (fuel' + 1) read) := by
  have on (start start' : Nat) (t : Token) := tracks_goOn alike mode read start start' t fun _ few => enough.next few
  refine ⟨forward_readSequence fun start t => (on start 0 t).alone,
    forward_readSequence fun start t => (on 0 start t).enclosed, fun s s' h => ?_⟩
  rcases h.token with ⟨-, one, two⟩ | ⟨t, one, two⟩
  · exact .same _ s s' (readSequence_end (by rw [one]; rfl)) (readSequence_end (by rw [two]; rfl)) h
  · cases goes : endsSequence (some t) with
    | true => exact .same _ s s' (readSequence_end (by rw [one, goes])) (readSequence_end (by rw [two, goes])) h
    | false =>
      rw [readSequence_on one goes, readSequence_on two goes]
      exact h.take_then one (on 0 _ t).enclosed fun u u' kept => (on _ _ t).outcome u u' kept

theorem tracks_readAlternatives (mode : Mode) (read : List Item) (enough : Enough 2 n (fuel + 1) (fuel' + 1)) :
    Tracks never mode.verbose n (readAlternatives mode true (fuel + 1) read)
      (readAlternatives mode true (fuel' + 1) read) := by
  rw [readAlternatives_nested, readAlternatives_nested]
  refine (alike.sequence n mode [] enough.down).bind fun i => ?_
  refine tracks_accept_then (by decide) (alike.alternatives _ mode _ ?_) (tracks_pure _)
  unfold Enough at *
  omega

theorem tracks_readGroup (form : GroupForm) (start start' : Nat) (enough : Enough 3 n (fuel + 1) (fuel' + 1)) :
    Tracks never false n (readGroup form start (fuel + 1)) (readGroup form start' (fuel' + 1)) := by
  rw [readGroup, readGroup]
  refine tracks_ite (Tracks.bind ((tracks_openGroup form.name).bind fun number => tracks_pure (some number))
    fun number => ?_) ((tracks_pure none).bind fun number => ?_)
  all_goals
    refine (alike.alternatives n form.mode [] enough.down).bind_strict (fun body => ?_) fun body =>
      (needsText_closeAt start).bind _
    refine (tracks_closeAt _ _).bind fun _ => ?_
    split
    · exact (tracks_closeGroup _ _).bind fun _ => tracks_pure _
    · exact tracks_pure _

theorem tracks_readLook (mode : Mode) (behind absent : Bool) (start start' : Nat)
    (enough : Enough 3 n (fuel + 1) (fuel' + 1)) :
    Tracks never false n (readLook mode behind absent start (fuel + 1))
      (readLook mode behind absent start' (fuel' + 1)) := by
  rw [readLook, readLook]
  refine (tracks_insideBehind behind (alike.alternatives n mode [] enough.down)).bind_strict (fun body => ?_) fun body => ?_
  · exact (tracks_closeAt _ _).bind fun _ => tracks_pure _
  · exact (needsText_closeAt start).bind _

theorem tracks_readConstruct (mode : Mode) (start start' : Nat) (enough : Enough 4 n (fuel + 1) (fuel' + 1)) :
    Tracks (· = Construct.options) false n (readConstruct mode start (fuel + 1))
      (readConstruct mode start' (fuel' + 1)) := by
  rw [readConstruct, readConstruct]
  have fewer {extra j : Nat} (few : extra ≤ 3) (le : j ≤ n) : Enough extra j fuel fuel' := by
    unfold Enough at *
    omega
  have group {j : Nat} (le : j ≤ n) (form : GroupForm) : Tracks (· = Construct.options) false j
      (readGroup form start fuel >>= fun i => pure (Construct.item i))
      (readGroup form start' fuel' >>= fun i => pure (Construct.item i)) :=
    (alike.group j form start start' (fewer (by decide) le)).bind fun i => tracks_pure _
  have look {j : Nat} (le : j ≤ n) (behind absent : Bool) : Tracks (· = Construct.options) false j
      (readLook mode behind absent start fuel >>= fun i => pure (Construct.item i))
      (readLook mode behind absent start' fuel' >>= fun i => pure (Construct.item i)) :=
    (alike.look j mode behind absent start start' (fewer (by decide) le)).bind fun i => tracks_pure _
  refine tracks_accept_then (by decide) ?_ (group (Nat.le_refl n) _)
  refine tracks_take_some (fails_fail _ _) (fails_fail _ _) fun t => ?_
  have twice : n - 1 - 1 ≤ n := by omega
  split
  · rename_i missing
    cases missing
  · refine tracks_accept_then (by decide) ?_ (tracks_accept_then (by decide) ?_ ?_)
    · exact (tracks_name _ _).bind fun cs => tracks_unless (group (by omega) _)
    · refine (tracks_name _ _).bind fun cs => tracks_unless (tracks_get fun s s' agree => ?_)
      rw [agree.names]
      split
      · exact tracks_fail _ _ _
      · refine tracks_get fun s s' agree => ?_
        rw [agree.groups]
        split
        · exact tracks_fail _ _ _
        · exact (tracks_checkBehind _).bind fun _ => tracks_pure _
    · exact tracks_take_some (fails_fail _ _) (fails_fail _ _) fun t => tracks_fail _ _ _
  · exact group twice _
  · exact group twice _
  · exact tracks_size fun j _ s s' left left' => (tracks_skipComment _ _ left left').bind fun _ => tracks_pure _
  · exact look twice false false
  · exact look twice false true
  · refine tracks_take_some (fails_fail _ _) (fails_fail _ _) fun t => ?_
    split
    · rename_i missing
      cases missing
    · exact look (by omega) true false
    · exact look (by omega) true true
    · exact tracks_fail _ _ _
  · refine tracks_readCondition.bind fun number => ?_
    refine (alike.sequence _ mode [] (fewer (by decide) twice)).bind_strict (fun yes => ?_) fun yes => ?_
    · refine tracks_accept_then (by decide) ?_ ((tracks_closeAt _ _).bind fun _ => tracks_pure _)
      refine (alike.sequence _ mode [] (fewer (by decide) (by omega))).bind_strict (fun no => ?_) fun no => ?_
      · exact tracks_peek (fun t => tracks_unless ((tracks_closeAt _ _).bind fun _ => tracks_pure _)) rfl
      · exact needsText_peek ((needsText_closeAt start).bind _)
    · exact needsText_accept ((needsText_closeAt start).bind _)
  · refine tracks_ite ?_ (tracks_fail _ _ _)
    refine (tracks_readFlags? _).bind_escape (fun change => ?_) fun change none s s' => ?_
    · cases change with
      | none => exact tracks_pure _
      | some change => exact group twice _
    · rw [none]
      exact .escaped .options s s' rfl rfl rfl

theorem Alike.round : Alike (fuel + 1) (fuel' + 1) where
  sequence _ mode read enough := tracks_readSequence alike mode read enough
  alternatives _ mode read enough := tracks_readAlternatives alike mode read enough
  group _ form start start' enough := tracks_readGroup alike form start start' enough
  look _ mode behind absent start start' enough := tracks_readLook alike mode behind absent start start' enough
  construct _ mode start start' enough := tracks_readConstruct alike mode start start' enough

end

theorem Enough.spent {extra n fuel fuel' : Nat} (h : Enough (extra + 1) n fuel fuel')
    (spent : fuel = 0 ∨ fuel' = 0) : n = 0 := by
  unfold Enough at h
  omega

theorem enough_zero {extra fuel fuel' : Nat} : Enough extra 0 fuel fuel' := .inl rfl

theorem alike_zero : Alike 0 0 where
  sequence _ mode _ _ := by
    rw [readSequence]
    exact tracks_fail _ _ _
  alternatives _ _ _ _ := by
    rw [readAlternatives]
    exact tracks_fail _ _ _
  group _ _ _ _ _ := by
    rw [readGroup, readGroup]
    exact tracks_fail _ _ _
  look _ _ _ _ _ _ _ := by
    rw [readLook, readLook]
    exact tracks_fail _ _ _
  construct _ _ _ _ _ := by
    rw [readConstruct, readConstruct]
    exact tracks_fail _ _ _

theorem alike_self (fuel : Nat) : Alike fuel fuel := by
  induction fuel with
  | zero => exact alike_zero
  | succ fuel ih => exact ih.round

/-- With nothing to read, rounds do not matter. -/
theorem alike_spent {fuel fuel' : Nat} (spent : fuel = 0 ∨ fuel' = 0) : Alike fuel fuel' := by
  have one := alike_self fuel
  have two := alike_self fuel'
  refine ⟨fun n mode read enough => ?_, fun n mode read enough => ?_, fun n form start start' enough => ?_,
    fun n mode behind absent start start' enough => ?_, fun n mode start start' enough => ?_⟩ <;>
    cases enough.spent spent
  · exact tracks_zero (one.sequence 0 mode read enough_zero).alone (two.sequence 0 mode read enough_zero).alone
  · exact tracks_zero (one.alternatives 0 mode read enough_zero).alone
      (two.alternatives 0 mode read enough_zero).alone
  · exact tracks_zero (one.group 0 form start start enough_zero).alone
      (two.group 0 form start' start' enough_zero).alone
  · exact tracks_zero (one.look 0 mode behind absent start start enough_zero).alone
      (two.look 0 mode behind absent start' start' enough_zero).alone
  · exact tracks_zero (one.construct 0 mode start start enough_zero).alone
      (two.construct 0 mode start' start' enough_zero).alone

/-- The readers of the grammar take the same steps in both readings. -/
theorem alike (fuel fuel' : Nat) : Alike fuel fuel' := by
  induction fuel generalizing fuel' with
  | zero => exact alike_spent (.inl rfl)
  | succ fuel ih =>
    cases fuel' with
    | zero => exact alike_spent (.inr rfl)
    | succ fuel' => exact (ih fuel').round

end Diagnosis.Pattern
