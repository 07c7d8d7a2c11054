import Diagnosis.Proofs.Pattern.Excess
import Diagnosis.Proofs.Delimiter

/-!
# Why patterns are refused

Every reader of the grammar stops at a fault of the pattern or at something that the text has too
much of, and so does the reading of a whole pattern. A pattern that is read has as many groups as
its node.
-/

namespace Diagnosis.Pattern

open Reader

variable {cs before : List Char} {count : Nat}

/-! ## Options -/

/-- Letters of options are those of the options that have been read. -/
def Spells (letters : List Char) (read : List Flag) : Prop :=
  (∀ l ∈ letters, (Flag.of? l).isSome = true) ∧ ∀ f ∈ read, ∃ l ∈ letters, Flag.of? l = some f

theorem Spells.next {letters : List Char} {read : List Flag} {c : Char} {f : Flag} (spells : Spells letters read)
    (known : Flag.of? c = some f) : Spells (letters ++ [c]) (f :: read) := by
  constructor
  · intro l member
    rcases List.mem_append.mp member with earlier | last
    · exact spells.1 l earlier
    · rw [List.mem_singleton.mp last, known]
      rfl
  · rintro g (_ | ⟨_, earlier⟩)
    · exact ⟨c, by simp, known⟩
    · obtain ⟨l, member, named⟩ := spells.2 g earlier
      exact ⟨l, List.mem_append_left _ member, named⟩

theorem eq_of_ascii {c : Char} (known : Flag.of? c = some .ascii) : c = 'a' := by
  unfold Flag.of? at known
  split at known <;> simp_all

theorem eq_of_unicode {c : Char} (known : Flag.of? c = some .unicode) : c = 'u' := by
  unfold Flag.of? at known
  split at known <;> simp_all

/-- Options that a parenthesis ends are set for everything. -/
theorem Spells.setsWith {letters : List Char} {read : List Flag} {f : Flag} {letter : Char}
    (spells : Spells letters read) (stands : '(' :: '?' :: (letters ++ [')']) <:+: cs)
    (only : ∀ c, Flag.of? c = some f → c = letter) (member : f ∈ read) : SetsWith cs letter := by
  obtain ⟨l, among, named⟩ := spells.2 f member
  obtain rfl := only l named
  exact ⟨letters, stands, spells.1, among⟩

theorem sound_flagAfter (closing : List Char) (missing : Fault) :
    Sound cs (Within cs before count) (flagAfter closing missing) fun r s =>
      ∃ c, (r = .inl c ∨ ∃ f, r = .inr f ∧ Flag.of? c = some f) ∧ Within cs (before ++ [c]) count s := by
  refine sound_take.bind fun o => ?_
  cases o with
  | none => exact sound_fail _ _
  | some t =>
    cases t with
    | escaped c => exact sound_fail _ _
    | plain c =>
      refine sound_ite (fun _ => sound_pure fun s within => ⟨c, .inl rfl, within⟩) fun _ => ?_
      cases known : Flag.of? c with
      | some f => exact sound_pure fun s within => ⟨c, .inr ⟨f, rfl, known⟩, within⟩
      | none => exact sound_fail _ _

theorem sound_readFlagsOn (fuel : Nat) {flag : Flag} {read : List Flag} {letters : List Char}
    (spells : Spells letters (flag :: read)) :
    Sound cs (Within cs ('(' :: '?' :: letters) count) (readFlagsOn fuel flag read) fun r s =>
      ∃ letters, Spells letters r.1 ∧ Within cs ('(' :: '?' :: (letters ++ [r.2])) count s := by
  induction fuel generalizing flag read letters with
  | zero => exact sound_fail _ _
  | succ fuel ih =>
    refine sound_unless fun _ => sound_unless fun _ => (sound_flagAfter _ _).bind fun r => ?_
    rintro s ⟨c, rfl | ⟨f, rfl, known⟩, within⟩
    · exact ⟨letters, spells, within⟩
    · exact ih (spells.next known) s within

theorem sound_readFlagsOff (fuel : Nat) (flag : Flag) (read : List Flag) :
    Sound cs (Within cs before count) (readFlagsOff fuel flag read) fun _ => Within cs [] count := by
  induction fuel generalizing before flag read with
  | zero => exact sound_fail _ _
  | succ fuel ih =>
    refine sound_unless fun _ => (sound_flagAfter _ _).bind fun r => ?_
    rintro s ⟨c, rfl | ⟨f, rfl, -⟩, within⟩
    · exact within.forget
    · exact ih f _ s within

theorem sound_readFirstOff : Sound cs (Within cs before count) readFirstOff fun _ => Within cs [] count := by
  refine (sound_flagAfter _ _).bind fun r => ?_
  rintro s ⟨c, rfl | ⟨f, rfl, -⟩, within⟩
  · exact .inl rfl
  · exact within.forget

/-- Options after a parenthesis and a question mark, from a first letter on if there is one. -/
theorem sound_readFlags? {first : Option Flag}
    (begins : ∀ f, first = some f → ∃ c, Flag.of? c = some f ∧ before = ['(', '?', c]) :
    Sound cs (Within cs before count) (readFlags? first) fun _ => Within cs [] count := by
  refine sound_get fun s _ => ?_
  extract_lets limit complete
  have completed (r : List Flag × Char) : Sound cs (fun s => Within cs [] count s ∧
      (r.2 = ')' → ∃ letters, Spells letters r.1 ∧ '(' :: '?' :: (letters ++ [')']) <:+: cs)) (complete r)
      fun _ => Within cs [] count := by
    obtain ⟨on, stop⟩ := r
    refine sound_ite (fun ends => ?_) fun _ => sound_unless fun _ => ?_
    · refine Sound.bind (sound_modify (Q := fun _ => Within cs [] count) ?_) fun _ => sound_pure fun _ => id
      rintro s ⟨within, spelled⟩
      obtain ⟨letters, spells, stands⟩ := spelled (beq_iff_eq.mp ends)
      refine { within with ascii := fun set => ?_, unicode := fun set => ?_ }
      · rcases Bool.or_eq_true_iff.mp set with earlier | now
        · exact within.ascii earlier
        · exact spells.setsWith stands (fun _ => eq_of_ascii) (List.contains_iff_mem.mp now)
      · rcases Bool.or_eq_true_iff.mp set with earlier | now
        · exact within.unicode earlier
        · exact spells.setsWith stands (fun _ => eq_of_unicode) (List.contains_iff_mem.mp now)
    · extract_lets finish
      have finished (off : List Flag) : Sound cs (Within cs [] count) (finish off) fun _ => Within cs [] count :=
        sound_unless fun _ => sound_unless fun _ => sound_pure fun _ => id
      refine Sound.conseq (P := Within cs [] count) ?_ (fun _ held => held.1) fun _ _ => id
      refine sound_ite (fun _ => ?_) fun _ => finished []
      exact sound_readFirstOff.bind fun f => (sound_readFlagsOff _ f []).bind finished
  cases first with
  | none => exact (completed ([], '-')).conseq (fun _ within => ⟨within.forget, nofun⟩) fun _ _ => id
  | some f =>
    obtain ⟨c, known, rfl⟩ := begins f rfl
    have spells : Spells [c] [f] := ⟨by simp [known], by simp [known]⟩
    refine (sound_readFlagsOn _ spells).bind fun r => (completed r).conseq ?_ fun _ _ => id
    rintro s ⟨letters, spells, within⟩
    refine ⟨within.forget, fun ends => ⟨letters, spells, ?_⟩⟩
    rw [← ends]
    exact within.stands

/-! ## Groups, comments and conditions -/

theorem sound_openGroup (name : Option String) :
    Sound cs (Within cs before count) (openGroup name) fun _ => Within cs [] (count + 1) := by
  intro s within
  have grows : (s.groups.push none).size = count + 1 := by rw [Array.size_push, within.groups]
  cases name with
  | none =>
    rw [openGroup_none]
    exact { within.forget with groups := grows }
  | some name =>
    cases known : s.names.lookup name with
    | none =>
      rw [openGroup_new known]
      exact { within.forget with groups := grows }
    | some earlier =>
      rw [openGroup, bind_get]
      dsimp only
      rw [known]
      exact .inl rfl

/-- What is left of a text at the beginning of a group, which counts if it has a number. -/
def Opened (cs : List Char) (count : Nat) (number : Option Nat) : State → Prop :=
  Within cs [] (count + number.elim 0 fun _ => 1)

theorem sound_some_openGroup (name : Option String) :
    Sound cs (Within cs before count) (some <$> openGroup name) (Opened cs count) :=
  (sound_openGroup name).bind fun number => sound_pure (a := some number) fun _ => id

theorem sound_closeGroup (number : Nat) (width : Width) :
    Sound cs (Within cs before count) (closeGroup number width) fun _ => Within cs [] count :=
  sound_modify fun _ within => { within.forget with groups := (Array.size_setIfInBounds ..).trans within.groups }

theorem sound_skipComment (start fuel : Nat) :
    Sound cs (Within cs before count) (skipComment start fuel) fun _ => Within cs [] count := by
  induction fuel generalizing before with
  | zero => exact sound_failAt _ _
  | succ fuel ih =>
    refine sound_take.bind fun o => ?_
    cases o with
    | none => exact sound_failAt _ _
    | some t => exact sound_ite (fun _ => sound_pure fun _ => Within.forget) fun _ => ih

theorem sound_skipLine (fuel : Nat) :
    Sound cs (Within cs before count) (skipLine fuel) fun _ => Within cs [] count := by
  induction fuel generalizing before with
  | zero => exact sound_pure fun _ => Within.forget
  | succ fuel ih =>
    refine sound_take.bind fun o => ?_
    cases o with
    | none => exact sound_pure fun _ => Within.forget
    | some t => exact sound_ite (fun _ => sound_pure fun _ => Within.forget) fun _ => ih

theorem sound_readCondition : Sound cs (Within cs before count) readCondition fun _ => Within cs [] count := by
  refine (sound_name _ _).bind fun name => sound_ite (fun _ => sound_get fun s _ => ?_) fun _ => ?_
  · split
    · exact (sound_checkBehind _).bind fun _ => sound_pure fun _ => id
    · exact sound_fail _ _
  · split
    · exact sound_fail _ _
    · refine sound_unless fun _ => sound_unless fun _ => sound_unless fun _ => sound_pos fun position => ?_
      refine Sound.bind (sound_modify (Q := fun _ => Within cs [] count) fun s within => ?_) fun _ =>
        (sound_checkBehind _).bind fun _ => sound_pure fun _ => id
      split
      · exact within
      · exact { within with }

theorem sound_insideBehind {α : Type} (behind : Bool) {body : Reader α} {after : α → Nat}
    (sound : Sound cs (Within cs [] count) body fun a => Within cs [] (after a)) :
    Sound cs (Within cs before count) (insideBehind behind body) fun a => Within cs [] (after a) := by
  refine sound_get fun s _ => ?_
  extract_lets earlier start
  have started : Sound cs (Within cs [] count) (start ()) fun a => Within cs [] (after a) := by
    refine sound.bind fun a => sound_ite (fun _ => ?_) fun _ => sound_pure fun _ => id
    exact Sound.bind (sound_modify (Q := fun _ => Within cs [] (after a)) fun _ within => { within with })
      fun _ => sound_pure fun _ => id
  refine sound_ite (fun _ => ?_) fun _ => started.conseq (fun _ => Within.forget) fun _ _ => id
  exact Sound.bind (sound_modify (Q := fun _ => Within cs [] count) fun _ within => { within.forget with })
    fun _ => started

/-! ## The grammar -/

/-- How many groups a construct has. -/
def Construct.captures : Construct → Nat
  | .item i => i.node.captures
  | .nothing | .options => 0

/-- The readers of the grammar with so many rounds, wherever they begin. What they give has the
groups that have been opened since. -/
structure Sounds (cs : List Char) (fuel : Nat) : Prop where
  sequence (mode : Mode) (first : Bool) (read : List Item) (before : List Char) (count : Nat) :
    Sound cs (Within cs before (count + capturesOf read)) (readSequence mode first fuel read)
      fun i => Within cs [] (count + i.node.captures)
  alternatives (mode : Mode) (nested : Bool) (read : List Item) (before : List Char) (count : Nat) :
    Sound cs (Within cs before (count + capturesOf read)) (readAlternatives mode nested fuel read)
      fun i => Within cs [] (count + i.node.captures)
  group (form : GroupForm) (start : Nat) (before : List Char) (count : Nat) :
    Sound cs (Within cs before count) (readGroup form start fuel) fun i => Within cs [] (count + i.node.captures)
  look (mode : Mode) (behind absent : Bool) (start : Nat) (before : List Char) (count : Nat) :
    Sound cs (Within cs before count) (readLook mode behind absent start fuel)
      fun i => Within cs [] (count + i.node.captures)
  construct (mode : Mode) (start count : Nat) :
    Sound cs (Within cs ['('] count) (readConstruct mode start fuel) fun c => Within cs [] (count + c.captures)

section
variable {fuel : Nat} (sounds : Sounds cs fuel)
include sounds

theorem sound_goOn (mode : Mode) (first : Bool) (read : List Item) (start : Nat) (t : Token) (count : Nat) :
    Sound cs (Within cs t.chars (count + capturesOf read)) (goOn mode first fuel read start t)
      fun i => Within cs [] (count + i.node.captures) := by
  have onward (read : List Item) (before : List Char) := sounds.sequence mode first read before count
  have further {before : List Char} (i : Item) : Sound cs
      (Within cs before (count + capturesOf read + i.node.captures)) (readSequence mode first fuel (i :: read))
      fun i => Within cs [] (count + i.node.captures) := by
    rw [add_capturesOf]
    exact onward (i :: read) before
  have repeated {before : List Char} (b : Bounds) : Sound cs (Within cs before (count + capturesOf read))
      (repeatLast b start read >>= readSequence mode first fuel) fun i => Within cs [] (count + i.node.captures) :=
    (sound_repeatLast b start read).bind fun read => onward read []
  cases t with
  | escaped c => exact (sound_readEscape mode c).bind fun i => further i
  | plain c =>
    refine sound_ite (fun _ => onward read _) fun _ => sound_ite (fun _ => ?_) fun _ => ?_
    · exact sound_get fun s _ => (sound_skipLine _).bind fun _ => onward read _
    refine sound_ite (fun _ => (sound_readSet mode).bind fun i => further i) fun _ => ?_
    refine sound_ite (fun _ => repeated _) fun _ => sound_ite (fun _ => repeated _) fun _ => ?_
    refine sound_ite (fun _ => repeated _) fun _ => sound_ite (fun opens => ?_) fun _ => ?_
    · obtain rfl := beq_iff_eq.mp opens
      refine sound_readBounds?.bind fun b => ?_
      cases b with
      | some b => exact repeated b
      | none => exact further (.literal mode _)
    refine sound_ite (fun _ => further (.ofTest _)) fun _ => sound_ite (fun _ => further (.anchored _)) fun _ => ?_
    refine sound_ite (fun _ => further (.anchored _)) fun _ => sound_ite (fun opens => ?_) fun _ => ?_
    · obtain rfl := beq_iff_eq.mp opens
      refine (sounds.construct mode start _).bind fun c => ?_
      cases c with
      | item i => exact further i
      | nothing => exact onward read []
      | options =>
        refine sound_guard (fun _ => sound_failAt _ _) fun _ => sound_get fun s _ => ?_
        exact sounds.sequence s.globals first read [] count
    · exact further (.literal mode _)

theorem sound_readSequence (mode : Mode) (first : Bool) (read : List Item) (count : Nat) :
    Sound cs (Within cs before (count + capturesOf read)) (readSequence mode first (fuel + 1) read)
      fun i => Within cs [] (count + i.node.captures) := by
  intro s within
  cases ends : endsSequence s.cursor.token? with
  | true =>
    rw [readSequence_end ends]
    refine { within.forget with groups := ?_ }
    rw [within.groups, captures_sequence, capturesOf_reverse]
  | false =>
    cases stands : s.cursor.token? with
    | none => rw [stands] at ends; cases ends
    | some t =>
      rw [stands] at ends
      rw [readSequence_on stands ends]
      exact ((sound_take_of (some t)).bind fun _ => sound_goOn sounds mode first read _ t count) s
        ⟨within.forget, stands⟩

theorem sound_readAlternatives (mode : Mode) (nested : Bool) (read : List Item) (count : Nat) :
    Sound cs (Within cs before (count + capturesOf read)) (readAlternatives mode nested (fuel + 1) read)
      fun i => Within cs [] (count + i.node.captures) := by
  rw [readAlternatives]
  have alternative (mode : Mode) : Sound cs (Within cs before (count + capturesOf read))
      (readSequence mode (! nested && read.isEmpty) fuel [] >>= fun i => accept '|' >>= fun more =>
        if more = true then readAlternatives mode nested fuel (i :: read) else pure (.alternatives (i :: read).reverse))
      fun i => Within cs [] (count + i.node.captures) := by
    refine (sounds.sequence mode _ [] before (count + capturesOf read)).bind fun i => ?_
    rw [add_capturesOf]
    refine sound_accept_then (sounds.alternatives mode nested (i :: read) _ count) (sound_pure fun s within => ?_)
    rwa [captures_alternatives, capturesOf_reverse]
  exact sound_ite (fun _ => alternative mode) fun _ => sound_get fun s _ => alternative s.globals

theorem sound_readGroup (form : GroupForm) (start count : Nat) :
    Sound cs (Within cs before count) (readGroup form start (fuel + 1))
      fun i => Within cs [] (count + i.node.captures) := by
  rw [readGroup]
  -- A group that captures has been counted before its body is read.
  refine sound_ite (fun _ => (sound_some_openGroup form.name).bind fun number => ?_) fun _ =>
    Sound.bind (Q := Opened cs count) (sound_pure fun _ => Within.forget) fun number => ?_
  all_goals
    refine (sounds.alternatives form.mode true [] [] _).bind fun body => (sound_closeAt start).bind fun _ => ?_
    cases number with
    | none =>
      refine sound_pure fun s within => ?_
      cases form.atomic <;> exact within
    | some n =>
      refine (sound_closeGroup n body.width).bind fun _ => sound_pure fun s within => ?_
      have same : count + 1 + body.node.captures = count + (body.node.captures + 1) := by omega
      exact same ▸ within

theorem sound_readLook (mode : Mode) (behind absent : Bool) (start count : Nat) :
    Sound cs (Within cs before count) (readLook mode behind absent start (fuel + 1))
      fun i => Within cs [] (count + i.node.captures) := by
  rw [readLook]
  refine (sound_insideBehind behind (sounds.alternatives mode true [] [] count)).bind fun body => ?_
  refine (sound_closeAt start).bind fun _ => sound_pure fun s within => ?_
  cases behind <;> exact within

theorem sound_readConstruct (mode : Mode) (start count : Nat) :
    Sound cs (Within cs ['('] count) (readConstruct mode start (fuel + 1))
      fun c => Within cs [] (count + c.captures) := by
  rw [readConstruct]
  have group {before : List Char} (form : GroupForm) : Sound cs (Within cs before count)
      (readGroup form start fuel >>= fun i => pure (Construct.item i)) fun c => Within cs [] (count + c.captures) :=
    (sounds.group form start before count).bind fun i => sound_pure fun _ => id
  have look {before : List Char} (behind absent : Bool) : Sound cs (Within cs before count)
      (readLook mode behind absent start fuel >>= fun i => pure (Construct.item i))
      fun c => Within cs [] (count + c.captures) :=
    (sounds.look mode behind absent start before count).bind fun i => sound_pure fun _ => id
  refine sound_accept_then ?_ (group _)
  refine sound_take.bind fun o => ?_
  split
  · exact sound_fail _ _
  · refine sound_accept_then ?_ (sound_accept_then ?_ ?_)
    · exact (sound_name _ _).bind fun cs => sound_unless fun _ => group _
    · refine (sound_name _ _).bind fun cs => sound_unless fun _ => sound_get fun s _ => ?_
      split
      · exact sound_fail _ _
      · refine sound_get fun s _ => ?_
        split
        · exact sound_fail _ _
        · exact (sound_checkBehind _).bind fun _ => sound_pure fun _ => id
    · refine sound_take.bind fun o => ?_
      split <;> exact sound_fail _ _
  · exact group _
  · exact group _
  · exact sound_get fun s _ => (sound_skipComment _ _).bind fun _ => sound_pure fun _ => id
  · exact look false false
  · exact look false true
  · refine sound_take.bind fun o => ?_
    split
    · exact sound_fail _ _
    · exact look true false
    · exact look true true
    · exact sound_fail _ _
  · refine sound_readCondition.bind fun number => ?_
    refine (sounds.sequence mode false [] [] count).bind fun yes => sound_accept_then ?_ ?_
    · refine (sounds.sequence mode false [] _ (count + yes.node.captures)).bind fun no => sound_peek fun o => ?_
      refine sound_unless fun _ => Sound.conseq (P := Within cs [] _) ?_ (fun _ held => held.1) fun _ _ => id
      refine (sound_closeAt start).bind fun _ => sound_pure fun s within => ?_
      rwa [Nat.add_assoc] at within
    · exact (sound_closeAt start).bind fun _ => sound_pure fun _ => id
  · rename_i t _ _ _ _ _ _ _ _
    have begins (f : Flag) (known : t.plain?.bind Flag.of? = some f) :
        ∃ c, Flag.of? c = some f ∧ ['('] ++ ['?'] ++ t.chars = ['(', '?', c] := by
      cases t with
      | escaped c => cases known
      | plain c => exact ⟨c, known, rfl⟩
    refine sound_ite (fun _ => (sound_readFlags? begins).bind fun change => ?_) fun _ => sound_fail _ _
    cases change with
    | none => exact sound_pure fun _ => id
    | some change => exact group _

theorem Sounds.round : Sounds cs (fuel + 1) where
  sequence mode first read _ count := sound_readSequence sounds mode first read count
  alternatives mode nested read _ count := sound_readAlternatives sounds mode nested read count
  group form start _ count := sound_readGroup sounds form start count
  look mode behind absent start _ count := sound_readLook sounds mode behind absent start count
  construct mode start count := sound_readConstruct sounds mode start count

end

theorem sounds_zero : Sounds cs 0 where
  sequence _ _ _ _ _ := by
    rw [readSequence]
    exact sound_fail _ _
  alternatives _ _ _ _ _ := by
    rw [readAlternatives]
    exact sound_fail _ _
  group _ _ _ _ := by
    rw [readGroup]
    exact sound_fail _ _
  look _ _ _ _ _ _ := by
    rw [readLook]
    exact sound_fail _ _
  construct _ _ _ := by
    rw [readConstruct]
    exact sound_fail _ _

theorem sounds (cs : List Char) (fuel : Nat) : Sounds cs fuel := by
  induction fuel with
  | zero => exact sounds_zero
  | succ fuel ih => exact ih.round

/-! ## The whole pattern -/

/-- What shows in a node once everything has been read is a fault of the pattern. -/
theorem kind_of_refusal? {template : Bool} {node : Node} {e : Error} (refused : node.refusal? template = some e) :
    e.kind = .invalid := by
  induction node with
  | empty | one | anchor | again => cases refused
  | seq a b first second | either a b first second | ifGroup _ a b first second =>
    rw [Node.refusal?] at refused
    split at refused
    · cases refused
      exact first ‹_›
    · exact second refused
  | group _ a ih | ahead _ a ih | atomic a ih => exact ih refused
  | behind _ least most a ih =>
    rw [Node.refusal?] at refused
    split at refused
    · cases refused
      rfl
    · split at refused
      · cases refused
        rfl
      · exact ih refused
  | many greed _ _ a ih =>
    rw [Node.refusal?] at refused
    split at refused
    · cases refused
      rfl
    · exact ih refused

theorem sound_checkAsked {P : State → Prop} (known : Nat) (asked : List (Nat × Nat)) :
    Sound cs P (checkAsked known asked) fun _ => P := by
  induction asked with
  | nil => exact sound_pure fun _ => id
  | cons first asked ih =>
    rw [checkAsked_cons]
    exact sound_guard (fun _ => sound_failAt _ _) fun _ => ih

theorem sound_finish (i : Item) : Sound cs (Within cs [] i.node.captures) (finish i)
    fun p _ => p.groups = p.node.captures := by
  refine sound_get fun s within => sound_guard (fun both => sound_throw fun _ _ => ?_) fun _ => sound_peek fun o => ?_
  · have set := Bool.and_eq_true_iff.mp both
    exact .inr (.letters (within.ascii set.1) (within.unicode set.2))
  refine sound_unless fun _ => (sound_checkAsked s.groups.size s.asked).bind fun _ => ?_
  split
  · exact sound_throw fun _ _ => .inl (kind_of_refusal? ‹_›)
  · exact sound_pure fun _ _ => within.groups

/-- A text is refused as a pattern for a fault of the pattern, or for something that the text has too
much of. A pattern has as many groups as its node. -/
theorem ofChars_accounted (cs : List Char) : match ofChars cs with
    | .ok p => p.groups = p.node.captures
    | .error e => Accounted cs e := by
  by_cases lone : cs = ['\\']
  · rw [lone]
    exact .inl rfl
  have within : Within cs [] 0 (State.before cs 0) := ⟨List.suffix_refl cs, rfl, nofun, nofun⟩
  have sound : Sound cs (Within cs [] 0) (readAlternatives {} false (4 * cs.length + 4) [] >>= finish)
      fun p _ => p.groups = p.node.captures := by
    refine ((sounds cs _).alternatives {} false [] [] 0).bind fun i => (sound_finish i).conseq ?_ fun _ _ => id
    exact fun s within => by rwa [Nat.zero_add] at within
  have met := sound (State.before cs 0) within
  rw [← readWhole_apply] at met
  cases read : readWhole (State.before cs 0) with
  | error e =>
    rw [ofChars_error lone read]
    simpa only [read] using met
  | ok r =>
    rw [read] at met
    rwa [ofChars_ok (p := r.1) (t := r.2) lone read]

end Diagnosis.Pattern
