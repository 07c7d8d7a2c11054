import Diagnosis.Proofs.CommandLine.Told

/-!
# Validating files once

Validations are waited for along a course of turns and outputs, in any order, until one of them has no
result or all have ended. When all end, the whole gives a result unless a file cannot be read for a
reason that is none of the engine's, two files are one, or the host does not accept the set of a file.
-/

namespace Diagnosis

namespace Engine

open CommandLine (failureOf? toTheEnd)

section

variable {e x y : Engine} {files : List String} {order : List Nat}

/-! ## Validations without a result -/

/-- A validation that has ended has no result if it has been called off, or if a failure goes out of
its pass. -/
theorem Underway.failureOf_eq (underway : Underway e x order) {n : Nat} {v : Validation}
    (known : x.validations[n]? = some v) :
    failureOf? x n = if v.isDone then
        if v.cancelled then some .cancelled else (e.endingOf v.document).raised? e.host v.document
      else none := by
  have reaches := (underway.stands n v known).2
  obtain ⟨d, p, called⟩ := v
  change Reaches e d called p at reaches
  rw [failureOf?, known]
  cases reaches with
  | created => rfl
  | calledOff => rfl
  | compiling _ _ _ => rfl
  | finished =>
    have refused (f : Failure) : (e.endingOf d).outcomeAt e.host d = .refused f ↔ (e.endingOf d).raised? e.host d = some f :=
      Ending.outcomeAt_eq_refused_iff
    simp only [Option.map_some, Validation.isDone, if_true, Bool.false_eq_true, if_false]
    cases raised : (e.endingOf d).raised? e.host d with
    | some f => rw [(refused f).mpr raised]
    | none =>
      have accepted (f : Failure) : (e.endingOf d).outcomeAt e.host d ≠ .refused f := fun ended => by
        rw [(refused f).mp ended] at raised
        cases raised
      split
      · rename_i same
        exact absurd (Phase.finished.inj (Option.some.inj same)) Ending.outcomeAt_ne_cancelled
      · rename_i same
        exact absurd (Phase.finished.inj (Option.some.inj same)) (accepted _)
      · rfl

/-- Each pass has its validation. -/
theorem Opened.there (opened : Opened e files x) (unborn : e.validations = []) (underway : Underway x y order) {n : Nat}
    (inside : n < (e.passes files).length) : ∃ v, y.validations[n]? = some v := by
  rw [← opened.endings_eq unborn, endings, List.length_map, ← underway.length] at inside
  exact ⟨_, List.getElem?_eq_getElem inside⟩

/-- The validation of each pass is that of its document, and comes to its ending. -/
theorem Opened.pass_of_known (opened : Opened e files x) (unborn : e.validations = []) (underway : Underway x y order)
    {n : Nat} {v : Validation} (known : y.validations[n]? = some v) :
    (e.passes files)[n]? = some (v.document, x.endingOf v.document) := by
  obtain ⟨⟨w, before, document, _⟩, _⟩ := underway.stands n v known
  rw [← opened.endings_eq unborn, endings, List.getElem?_map, before, document]
  rfl

/-- A failure is that of a validation that has been called off, for another one of its file, or has
gone out of a pass that has ended. -/
theorem Opened.failed (opened : Opened e files x) (unborn : e.validations = []) (underway : Underway x y order) {n : Nat}
    {f : Failure} (failed : failureOf? y n = some f) :
    (f = .cancelled ∧ ¬ Distinct e files) ∨
    ∃ p ∈ order.filterMap ((e.passes files)[·]?), p.2.raised? e.host p.1 = some f := by
  cases known : y.validations[n]? with
  | none => rw [failureOf?, known] at failed; cases failed
  | some v =>
    rw [underway.failureOf_eq known] at failed
    split at failed
    · next done =>
      split at failed
      · next called =>
        obtain ⟨⟨w, before, _, same⟩, _⟩ := underway.stands n v known
        refine .inl ⟨(Option.some.inj failed).symm, fun distinct => ?_⟩
        rw [same, (opened.uncalled_iff unborn).mpr distinct n w before] at called
        cases called
      · next uncalled =>
        have member : n ∈ order := (underway.ended n).mpr ⟨v, known, eq_false_of_ne_true uncalled, done⟩
        rw [opened.host] at failed
        exact .inr ⟨_, List.mem_filterMap.mpr ⟨n, member, opened.pass_of_known unborn underway known⟩, failed⟩
    · cases failed

/-- If no validation is without a result and all have ended, the files are different, and no failure
goes out of a pass. -/
theorem Opened.unfailed (opened : Opened e files x) (unborn : e.validations = []) (underway : Underway x y order)
    (unfailed : ∀ n < (e.passes files).length, failureOf? y n = none)
    (done : ∀ n < (e.passes files).length, y.isDone n = true) :
    AllDone y ∧ Distinct e files ∧ ∀ p ∈ e.passes files, p.2.raised? e.host p.1 = none := by
  have length : (e.passes files).length = y.validations.length := by
    rw [← opened.endings_eq unborn, endings, List.length_map, underway.length]
  have all : AllDone y := by
    intro n v known
    have ended := done n (length ▸ (List.getElem?_eq_some_iff.mp known).1)
    rwa [isDone, known] at ended
  have fine {n : Nat} {v : Validation} (known : y.validations[n]? = some v) :
      v.cancelled = false ∧ (x.endingOf v.document).raised? x.host v.document = none := by
    have nothing := unfailed n (length ▸ (List.getElem?_eq_some_iff.mp known).1)
    rw [underway.failureOf_eq known, if_pos (all n v known)] at nothing
    split at nothing
    · cases nothing
    · next uncalled => exact ⟨eq_false_of_ne_true uncalled, nothing⟩
  refine ⟨all, (opened.uncalled_iff unborn).mp fun n w before => ?_, fun p member => ?_⟩
  · have known := List.getElem?_eq_getElem (underway.length ▸ (List.getElem?_eq_some_iff.mp before).1)
    obtain ⟨⟨w', before', _, same⟩, _⟩ := underway.stands n _ known
    rw [before, Option.some.injEq] at before'
    subst before'
    exact same.symm.trans (fine known).1
  · obtain ⟨n, there⟩ := List.getElem?_of_mem member
    obtain ⟨v, known⟩ := opened.there unborn underway (List.getElem?_eq_some_iff.mp there).1
    rw [opened.pass_of_known unborn underway known, Option.some.injEq] at there
    subst there
    rw [← opened.host]
    exact (fine known).2

/-! ## Working on until nothing is left to do -/

theorem settling_spontaneous (e : Engine) : ∀ m ∈ e.settling, Move.Spontaneous m := by
  intro m member
  rw [(List.mem_replicate.mp member).2]
  trivial

theorem settle_eq_run (e : Engine) : e.settle = e.run e.settling := steps_eq_run _ e

theorem Underway.settle (underway : Underway e x order) (ready : Ready e) :
    ∃ more, Underway e x.settle (order ++ more) := by
  rw [settle_eq_run]
  exact underway.run ready (settling_spontaneous x)

/-- Where nothing is left to do, all validations have ended, if no output is held back. -/
theorem Underway.done_of_prompt (underway : Underway e x order) (announced : Announced x) (empty : x.queue = [])
    (prompt : ∀ i, (e.machine.toolchain.answer i).held = false) : AllDone x := by
  intro n v known
  have reaches := (underway.stands n v known).2
  obtain ⟨d, p, called⟩ := v
  change Reaches e d called p at reaches
  cases reaches with
  | created =>
    -- its start would still be waiting
    have waits := announced n _ known rfl
    rw [empty] at waits
    cases waits
  | calledOff => rfl
  | compiling _ answers held =>
    obtain ⟨i, rfl⟩ := answers
    rw [prompt] at held
    cases held
  | finished => rfl

/-- What has ended stays ended. -/
theorem Underway.done_settle {more : List Nat} (underway : Underway e x order)
    (settled : Underway e x.settle (order ++ more)) (done : AllDone x) : AllDone x.settle := by
  intro n v' found
  have inside : n < x.validations.length := by
    rw [underway.length, ← settled.length]
    exact (List.getElem?_eq_some_iff.mp found).1
  obtain ⟨w, last, ages⟩ := keeps_steps (2 * x.queue.length) x n _ (List.getElem?_eq_getElem inside)
  have ended := done n _ (List.getElem?_eq_getElem inside)
  rw [ages.ended ended] at last
  obtain rfl : _ = v' := Option.some.inj (last.symm.trans found)
  exact ended

/-- Shutting down tells the host nothing. -/
theorem shutdown_untold (registered : Registered e) : noticesIn e.shutdown.trace = noticesIn e.trace := by
  obtain ⟨files, grown⟩ := (shutdown_silent registered).1.trace
  rw [grown, noticesIn_append, show noticesIn (files.map .kill) = [] by simp [noticesIn], List.append_nil]

end

/-! ## Files that have been opened -/

theorem toTheEnd_spontaneous {e : Engine} {course : List Move} (spontaneous : ∀ m ∈ course, m.Spontaneous) :
    ∀ m ∈ toTheEnd e course, m.Spontaneous := by
  intro m member
  rcases List.mem_append.mp member with first | last
  · exact spontaneous m first
  · exact settling_spontaneous _ m last

theorem run_toTheEnd (e : Engine) (course : List Move) : e.run (toTheEnd e course) = (e.run course).settle := by
  rw [toTheEnd, run_append, settle_eq_run]

/-- No compiler holds its output back. -/
def Prompt (e : Engine) : Prop := ∀ i, (e.machine.toolchain.answer i).held = false

section

variable {e x y : Engine} {files : List String} {order : List Nat}

theorem Opened.prompt (opened : Opened e files x) (prompt : Prompt e) : Prompt x := by
  intro i
  rw [opened.reread.machine]
  exact prompt i

/-- All end along every course if no compiler holds its output back. -/
theorem Opened.allEnd (opened : Opened e files x) (prompt : Prompt e) {course : List Move}
    (spontaneous : ∀ m ∈ course, m.Spontaneous) : AllDone (x.run (toTheEnd x course)) := by
  obtain ⟨order, underway⟩ := (opened.ready.underway opened.reread.registered).run opened.ready
    (toTheEnd_spontaneous spontaneous)
  refine underway.done_of_prompt (opened.announced.run _) ?_ (opened.prompt prompt)
  rw [run_toTheEnd]
  exact settle_empty _

/-- Once waiting is over, what has been told is told, and nothing else. -/
theorem Opened.told_over (opened : Opened e files x) (unborn : e.validations = [])
    (silent : errorsIn e.trace = [] ∧ setsIn e.trace = []) (announced : Announced y) (underway : Underway x y order) :
    ∃ more, Told e files ((order ++ more).filterMap ((e.passes files)[·]?)) y.settle.shutdown ∧
      (AllDone y ∨ Prompt e → Distinct e files →
        ((order ++ more).filterMap ((e.passes files)[·]?)).Perm (e.passes files)) := by
  obtain ⟨more, settled⟩ := underway.settle opened.ready
  refine ⟨more, (opened.told unborn silent settled).of_untold (shutdown_untold settled.registered), fun cause distinct => ?_⟩
  refine opened.told_all unborn settled ?_ distinct
  rcases cause with done | prompt
  · exact underway.done_settle settled done
  · refine settled.done_of_prompt ?_ (settle_empty y) (opened.prompt prompt)
    rw [settle_eq_run]
    exact announced.run _

end

end Engine

namespace CommandLine

open Engine

/-! ## Waiting -/

/-- What waiting for validations has come to. -/
inductive Waited (e : Engine) (ns : List Nat) : Option (Except Failure Bool) → Prop where
  /-- One of them has no result. -/
  | failed {n : Nat} {f : Failure} (member : n ∈ ns) (failed : failureOf? e n = some f) : Waited e ns (some (.error f))
  /-- All have ended with a result. -/
  | ended (unfailed : ∀ n ∈ ns, failureOf? e n = none) (done : ∀ n ∈ ns, e.isDone n = true) :
    Waited e ns (some (.ok e.session.anyErrors))
  /-- One of them has not ended. -/
  | waits {n : Nat} (member : n ∈ ns) (undone : e.isDone n = false) : Waited e ns none

theorem resultOf_waited (e : Engine) (ns : List Nat) : Waited e ns (resultOf? e ns) := by
  unfold resultOf?
  cases failed : ns.findSome? (failureOf? e) with
  | some f =>
    obtain ⟨n, member, failed⟩ := List.exists_of_findSome?_eq_some failed
    exact .failed member failed
  | none =>
    dsimp only
    split
    · next done => exact .ended (List.findSome?_eq_none_iff.mp failed) (List.all_eq_true.mp done)
    · next undone =>
      rw [List.all_eq_true] at undone
      push Not at undone
      obtain ⟨n, member, undone⟩ := undone
      exact .waits member (eq_false_of_ne_true undone)

/-- Waiting goes along a first part of a course, and along all of it as long as it comes to nothing. -/
theorem wait_along (ns : List Nat) (e : Engine) (moves : List Move) :
    ∃ front back, moves = front ++ back ∧ wait ns e moves = (e.run front, resultOf? (e.run front) ns) ∧
      (resultOf? (e.run front) ns = none → back = []) := by
  induction moves generalizing e with
  | nil => exact ⟨[], [], rfl, rfl, fun _ => rfl⟩
  | cons m rest ih =>
    rw [wait]
    cases came : resultOf? e ns with
    | some r => exact ⟨[], m :: rest, rfl, by rw [run_nil, came], fun nothing => by rw [run_nil, came] at nothing; cases nothing⟩
    | none =>
      obtain ⟨front, back, rfl, same, whole⟩ := ih (e.after m)
      exact ⟨m :: front, back, rfl, same, whole⟩

/-- All validations of files end along a course. -/
def AllEnd (e : Engine) (files : List String) (course : List Move) : Prop :=
  AllDone ((openFiles e files).1.run (toTheEnd (openFiles e files).1 course))

/-- What has come of files that have been validated once along a course. Some passes have ended and
have been told, all of them if there is a result, or if compilers have no output held back. A failure
that goes out is that of a pass that has ended, or one of two files that are one has been called off.
A result tells whether an error is shown. If all validations end along the course, there is a result
if and only if the files are different and no failure goes out of a pass. -/
structure Comes (e : Engine) (files : List String) (course : List Move)
    (came : Engine × Option (Except Failure Bool)) : Prop where
  told : ∃ ended, Told e files ended came.1 ∧
    ((∃ b, came.2 = some (.ok b)) ∨ Prompt e ∧ Distinct e files → ended.Perm (e.passes files)) ∧
    ∀ f, came.2 = some (.error f) →
      (f = .cancelled ∧ ¬ Distinct e files) ∨ ∃ p ∈ ended, p.2.raised? e.host p.1 = some f
  result : ∀ b, came.2 = some (.ok b) → Distinct e files ∧ (∀ p ∈ e.passes files, p.2.raised? e.host p.1 = none) ∧
    (b = true ↔ ∃ p ∈ e.passes files, p.2.ShowsError)
  waits : came.2 = none → ¬ AllEnd e files course
  prompt : Prompt e → AllEnd e files course

/-- There is a result just if the files are different and no failure goes out of a pass. -/
theorem Comes.result_iff {e : Engine} {files : List String} {course : List Move}
    {came : Engine × Option (Except Failure Bool)} (comes : Comes e files course came) (end' : AllEnd e files course) :
    (∃ b, came.2 = some (.ok b)) ↔ Distinct e files ∧ ∀ p ∈ e.passes files, p.2.raised? e.host p.1 = none := by
  constructor
  · rintro ⟨b, given⟩
    obtain ⟨distinct, unraised, _⟩ := comes.result b given
    exact ⟨distinct, unraised⟩
  · rintro ⟨distinct, unraised⟩
    obtain ⟨ended, told, _, failures⟩ := comes.told
    cases given : came.2 with
    | none => exact absurd end' (comes.waits given)
    | some r =>
      cases r with
      | ok b => exact ⟨b, rfl⟩
      | error f =>
        rcases failures f given with ⟨_, shared⟩ | ⟨p, member, raised⟩
        · exact absurd distinct shared
        · rw [unraised p (told.among member)] at raised
          cases raised

theorem validateOnce_of_opened {e : Engine} {files : List String} {ns : List Nat}
    (opened : (openFiles e files).2 = .ok ns) (course : List Move) :
    validateOnce e files course =
      match wait ns (openFiles e files).1 (toTheEnd (openFiles e files).1 course) with
      | (e, some r) => (e.settle.shutdown, some r)
      | (e, none) => (e, none) := by
  unfold validateOnce
  obtain ⟨x, r, came⟩ : ∃ x r, openFiles e files = (x, r) := ⟨_, _, rfl⟩
  rw [came] at opened ⊢
  dsimp only at opened ⊢
  subst opened
  rfl

theorem validateOnce_comes {machine : Machine} {host : Host} {folder : Path} {workspace : Option String} {e : Engine}
    (created : create machine host folder workspace = .ok e) {files : List String}
    (orderly : (files.map e.handleFile).findSome? Handling.raised? = none) {course : List Move}
    (spontaneous : ∀ m ∈ course, m.Spontaneous) : Comes e files course (validateOnce e files course) := by
  obtain ⟨unborn, _, _, _, unset⟩ := create_eq created
  have silent : errorsIn e.trace = [] ∧ setsIn e.trace = [] := ⟨create_untold created, unset⟩
  obtain ⟨opened, numbers⟩ := openFiles_opened created orderly
  have displayed : Registered (openFiles e files).1 ∧ Displayed (openFiles e files).1 :=
    stable_openFiles displayed_invariant.toStable e files ⟨registered_create created, displayed_create created⟩
  have prompt := fun prompt => opened.allEnd prompt spontaneous
  obtain ⟨front, back, whole, stops, onward⟩ := wait_along (List.range (e.passes files).length)
    (openFiles e files).1 (toTheEnd (openFiles e files).1 course)
  have spontaneously : ∀ m ∈ front, m.Spontaneous := fun m member =>
    toTheEnd_spontaneous spontaneous m (whole ▸ List.mem_append_left back member)
  obtain ⟨order, underway⟩ := (opened.ready.underway opened.reread.registered).run opened.ready spontaneously
  rw [List.nil_append] at underway
  have outcome := opened.told_over unborn silent (opened.announced.run front) underway
  rw [validateOnce_of_opened numbers, stops]
  have waited := resultOf_waited ((openFiles e files).1.run front) (List.range (e.passes files).length)
  generalize resultOf? ((openFiles e files).1.run front) (List.range (e.passes files).length) = r at waited onward ⊢
  cases waited with
  | failed member failed =>
    obtain ⟨more, told, all⟩ := outcome
    refine ⟨⟨_, told, ?_, fun f same => ?_⟩, nofun, nofun, prompt⟩
    · rintro (⟨b, given⟩ | ⟨prompt, distinct⟩)
      · cases given
      · exact all (.inr prompt) distinct
    · cases same
      refine (opened.failed unborn underway failed).imp_right fun ⟨p, among, raised⟩ => ⟨p, ?_, raised⟩
      rw [List.filterMap_append]
      exact List.mem_append_left _ among
  | ended unfailed done =>
    obtain ⟨more, told, all⟩ := outcome
    obtain ⟨allDone, distinct, unraised⟩ := opened.unfailed unborn underway
      (fun n inside => unfailed n (List.mem_range.mpr inside)) fun n inside => done n (List.mem_range.mpr inside)
    refine ⟨⟨_, told, fun _ => all (.inl allDone) distinct, nofun⟩, fun b given => ⟨distinct, unraised, ?_⟩, nofun, prompt⟩
    cases given
    rw [(opened.told unborn silent underway).anyErrors_iff (displayed_invariant.run _ front displayed).2]
    have same := opened.told_all unborn underway allDone distinct
    simp only [same.mem_iff]
  | waits member undone =>
    obtain rfl := onward rfl
    rw [List.append_nil] at whole
    have ended : AllEnd e files course ↔ AllDone ((openFiles e files).1.run front) := by rw [AllEnd, whole]
    refine ⟨⟨_, opened.told unborn silent underway, ?_, nofun⟩, nofun, fun _ allEnd => ?_, prompt⟩
    · rintro (⟨b, given⟩ | ⟨prompt', distinct⟩)
      · cases given
      · exact opened.told_all unborn underway (ended.mp (prompt prompt')) distinct
    · obtain ⟨v, known⟩ := opened.there unborn underway (List.mem_range.mp member)
      rw [isDone, known, Option.map_some, Option.getD_some, ended.mp allEnd _ v known] at undone
      cases undone

/-- Files are validated once by a new engine, in whatever order validations have their turns and
compilers their output. If reading one of them fails for a reason that is none of the engine's, the
first such failure goes out. Otherwise what is told of each file depends on that file alone. When all
validations end, as they do if no compiler holds its output back, there is a result if and only if the
files are different and the host accepts the set of each report. -/
theorem one_shot_isolated {machine : Machine} {host : Host} {folder : Path} {workspace : Option String} {e : Engine}
    (created : create machine host folder workspace = .ok e) (files : List String) {course : List Move}
    (spontaneous : ∀ m ∈ course, m.Spontaneous) :
    (∀ f, (files.map e.handleFile).findSome? Handling.raised? = some f →
      (validateOnce e files course).2 = some (.error f)) ∧
    ((files.map e.handleFile).findSome? Handling.raised? = none →
      Comes e files course (validateOnce e files course) ∧
      (AllEnd e files course → ((∃ b, (validateOnce e files course).2 = some (.ok b)) ↔
        Distinct e files ∧ ∀ p ∈ e.passes files, p.2.raised? e.host p.1 = none))) := by
  have each := opensEach (coherent_create created) (registered_create created) (ready_create created) files
  refine ⟨fun f raised => ?_, fun orderly => ?_⟩
  · have fails := each.raises f raised
    unfold validateOnce
    obtain ⟨x, r, came⟩ : ∃ x r, openFiles e files = (x, r) := ⟨_, _, rfl⟩
    rw [came] at fails ⊢
    dsimp only at fails
    subst fails
    rfl
  · have comes := validateOnce_comes created orderly spontaneous
    exact ⟨comes, comes.result_iff⟩

/-- The small machine with a compiler that does not hold its output back, and with a folder that is
named as a source file is. -/
def promptMachine : Machine where
  tree := ⟨smallMachine.tree.entries ++ [(["d.c"], .directory)]⟩
  directory := []
  toolchain := { answer := fun _ => { smallReply with held := false } }

/-- A terminal that takes no text with tags in it. -/
def plainTerminal : Terminal where
  refusal? _ := some "no tags"

/-- A file by itself has its error shown, in whatever order turns are taken. Named after a folder
nothing comes of it, and named twice it has no result, and neither has it on a terminal that does not
take its name. -/
theorem one_shot_isolated_small :
    (∃ e, create promptMachine (.console (.text {})) ⟨"/", ["home"]⟩ none = .ok e ∧
      (validateOnce e ["/a.c"] [.turned 1]).2 = some (.ok true) ∧
      lastSet (validateOnce e ["/a.c"] [.turned 1]).1.trace "file:///a.c" = some smallSet ∧
      (validateOnce e ["/d.c", "/a.c"] []).2 = some (.error (.system (.file .isDirectory "/d.c"))) ∧
      ∀ b, (validateOnce e ["/a.c", "/a.c"] []).2 ≠ some (.ok b)) ∧
    ∃ e, create promptMachine (.console (.text plainTerminal)) ⟨"/", ["home"]⟩ none = .ok e ∧
      ∀ b, (validateOnce e ["/a.c"] []).2 ≠ some (.ok b) := by
  constructor
  · have checked : (create promptMachine (.console (.text {})) ⟨"/", ["home"]⟩ none).toOption.any (fun e =>
        (e.passOver "/a.c").toOption.any (fun p => p.1.uri = "file:///a.c" ∧ p.2.set? = some smallSet ∧
          p.2.raised? (.console (.text {})) p.1 = none) = true ∧
        (["/a.c"].map e.handleFile).findSome? Handling.raised? = none ∧
        (["/a.c", "/a.c"].map e.handleFile).findSome? Handling.raised? = none ∧
        (["/d.c", "/a.c"].map e.handleFile).findSome? Handling.raised? = some (.system (.file .isDirectory "/d.c"))) =
          true := by
      decide +kernel
    obtain ⟨e, created, holds⟩ := exists_ok_of_any checked
    obtain ⟨passed, once, twice, folder⟩ := of_decide_eq_true holds
    obtain ⟨p, ran, passes⟩ := exists_ok_of_any passed
    obtain ⟨address, set, unraised⟩ := of_decide_eq_true passes
    have alone : e.passes ["/a.c"] = [p] := by rw [Engine.passes, List.filterMap_cons, ran]; rfl
    have both : e.passes ["/a.c", "/a.c"] = [p, p] := by
      rw [Engine.passes, List.filterMap_cons, ran]
      exact congrArg (p :: ·) alone
    have prompt : Prompt e := fun _ => by rw [create_toolchain created]; rfl
    have first : ∀ m ∈ [Move.turned 1], m.Spontaneous := by simp [Move.Spontaneous]
    obtain ⟨comes, ends⟩ := (one_shot_isolated created ["/a.c"] first).2 once
    obtain ⟨b, given⟩ := (ends (comes.prompt prompt)).mpr ⟨by simp [Distinct, alone], by
      simp only [alone, List.mem_singleton, forall_eq]
      rw [create_host created]
      exact unraised⟩
    obtain ⟨ended, told, all, _⟩ := comes.told
    have member : p ∈ ended := (all (.inl ⟨b, given⟩)).mem_iff.mpr (alone ▸ List.mem_singleton_self p)
    have shows : p.2.ShowsError := p.2.showsError_iff.mpr ⟨smallSet, set, by decide⟩
    obtain ⟨_, _, tells⟩ := comes.result b given
    obtain rfl : b = true := tells.mpr ⟨p, alone ▸ List.mem_singleton_self p, shows⟩
    refine ⟨e, created, given, ?_, (one_shot_isolated created ["/d.c", "/a.c"] (List.forall_mem_nil _)).1 _ folder, fun b twofold => ?_⟩
    · rw [← address]
      exact (told.shown p member).1.trans set
    · have shared := (((one_shot_isolated created ["/a.c", "/a.c"] (List.forall_mem_nil _)).2 twice).1.result b twofold).1
      simp [Distinct, both] at shared
  · have checked : (create promptMachine (.console (.text plainTerminal)) ⟨"/", ["home"]⟩ none).toOption.any (fun e =>
        (e.passOver "/a.c").toOption.any (fun p => p.2.raised? (.console (.text plainTerminal)) p.1 ≠ none) = true ∧
        (["/a.c"].map e.handleFile).findSome? Handling.raised? = none) = true := by
      decide +kernel
    obtain ⟨e, created, holds⟩ := exists_ok_of_any checked
    obtain ⟨passed, once⟩ := of_decide_eq_true holds
    obtain ⟨p, ran, raised⟩ := exists_ok_of_any passed
    have alone : e.passes ["/a.c"] = [p] := by rw [Engine.passes, List.filterMap_cons, ran]; rfl
    obtain ⟨comes, _⟩ := (one_shot_isolated created ["/a.c"] (List.forall_mem_nil _)).2 once
    refine ⟨e, created, fun b given => ?_⟩
    have unraised := (comes.result b given).2.1 p (alone ▸ List.mem_singleton_self p)
    rw [create_host created] at unraised
    exact of_decide_eq_true raised unraised

end CommandLine

end Diagnosis
