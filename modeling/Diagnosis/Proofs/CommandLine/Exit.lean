import Diagnosis.Proofs.CommandLine.Once

/-!
# The exit code of a single validation

The exit code tells whether an error is shown: as a diagnostic, of which no more are
shown than the settings allow, or as a message. An error that a compiler has found
and that the limit cuts off does not count; a set that the console does not accept ends
the program with a failure.
-/

namespace Diagnosis

namespace CommandLine

open Engine

/-- The errors that a console has been told are those of the trace. -/
theorem consoleAfter_errors (form : Console.Form) (trace : List Event) :
    (consoleAfter form trace).errors = errorsIn trace := by
  induction trace using List.reverseRecOn with
  | nil => rfl
  | append_singleton trace event ih =>
    rw [errorsIn_append, ← ih]
    unfold consoleAfter
    rw [List.foldl_append]
    cases event with
    | notice n =>
      cases n with
      | error message => rfl
      | publish uri ds => exact (List.append_nil _).symm
      | log message => exact (List.append_nil _).symm
    | _ => exact (List.append_nil _).symm

/-- The program exits with a code if waiting has come to a result. -/
theorem endingAfter_exit {c : Console} {r : Option (Except Failure Bool)} {code : Nat}
    (exits : endingAfter c r = .exit code) : ∃ b, r = some (.ok b) := by
  rcases r with _ | f | b
  · cases exits
  · cases exits
  · exact ⟨b, rfl⟩

/-- The program ends with a failure if waiting has come to it. -/
theorem endingAfter_failed {c : Console} {r : Option (Except Failure Bool)} {f : Failure}
    (failed : endingAfter c r = .failed f) : r = some (.error f) := by
  rcases r with _ | g | b
  · cases failed
  · cases failed
    rfl
  · cases failed

/-! ## One run -/

/-- The files that options name, from the root. -/
def targets (s : Setting) (o : Options) : List String := o.files.map (Path.absolute (FileTree.textOf s.machine.directory))

/-- How results are printed with options. -/
def formOf (s : Setting) (o : Options) : Console.Form := if o.json then .json else .text s.terminal

/-- A command line has files validated once: they are there, an engine can be made for them, each
can be read, and they are different files. Each file has its pass. While they are waited for, turns are
taken and outputs come in any order. -/
structure OneShot (s : Setting) (args : List String) (o : Options) (e : Engine)
    (passes : List (Document × Engine.Ending)) : Prop where
  read : Options.ofArguments args = .ok o
  once : o.once = true
  named : o.files.isEmpty = false
  usable : (targets s o).findSome? (complaint? s.machine) = none
  created : ∃ file tree, openLog s.machine (o.logFile.getD (defaultLog s.home)) = .ok (file, tree) ∧
    Engine.create { s.machine with tree } (.console (formOf s o)) (folderOf s.home)
      ((workspaceOf o.workspace).map (Path.absolute (FileTree.textOf s.machine.directory))) = .ok e
  readable : (targets s o).map e.passOver = passes.map .ok
  distinct : (passes.map (·.1.uri)).Nodup
  spontaneous : ∀ m ∈ s.course, m.Spontaneous

theorem passes_of_readable {e : Engine} {files : List String} {passes : List (Document × Engine.Ending)}
    (readable : files.map e.passOver = passes.map .ok) :
    e.passes files = passes ∧ (files.map e.handleFile).findSome? Handling.raised? = none ∧
      (files.map e.handleFile).filterMap Handling.notified? = [] := by
  induction files generalizing passes with
  | nil =>
    cases passes with
    | nil => exact ⟨rfl, rfl, rfl⟩
    | cons p rest => cases readable
  | cons path files ih =>
    cases passes with
    | nil => cases readable
    | cons p rest =>
      rw [List.map_cons, List.map_cons, List.cons.injEq] at readable
      obtain ⟨first, others⟩ := readable
      obtain ⟨all, unraised, untold⟩ := ih others
      have admitted : e.handleFile path = .accepted p.1 := by
        rw [handleFile, readNow_passOver, first]
        rfl
      refine ⟨?_, ?_, ?_⟩
      · rw [passes, List.filterMap_cons, first]
        exact congrArg (p :: ·) all
      · rw [List.map_cons, admitted]
        exact unraised
      · rw [List.map_cons, admitted]
        exact untold

/-- A fact and a weaker one, each beside a third, come to the same unless the weaker one alone holds. -/
theorem or_iff_or_of_imp {p q r : Prop} (imp : p → q) : (p ∨ r ↔ q ∨ r) ↔ ¬ (¬ r ∧ q ∧ ¬ p) := by
  tauto

section

variable {s : Setting} {args : List String} {o : Options} {e : Engine} {passes : List (Document × Engine.Ending)}

/-- A command line that has files validated once runs with an engine of its own. -/
theorem run_eq_runOnce (shot : OneShot s args o e passes) {file : String} {tree : FileTree}
    (logged : openLog s.machine (o.logFile.getD (defaultLog s.home)) = .ok (file, tree)) :
    run s args =
      { runOnce { s with machine := { s.machine with tree } } (formOf s o) (targets s o)
          ((workspaceOf o.workspace).map (Path.absolute (FileTree.textOf s.machine.directory))) with
        log := some (if o.verbose then .debug else .info, file) } := by
  have usable : (o.files.map (Path.absolute (FileTree.textOf s.machine.directory))).findSome? (complaint? s.machine) =
      none := shot.usable
  rw [run, shot.read]
  dsimp only
  rw [runWith, if_neg (by rw [shot.named]; exact Bool.false_ne_true)]
  dsimp only
  rw [usable]
  dsimp only
  rw [logged]
  dsimp only
  rw [if_pos shot.once]
  rfl

theorem OneShot.host (shot : OneShot s args o e passes) : e.host = .console (formOf s o) := by
  obtain ⟨_, _, _, created⟩ := shot.created
  exact create_host created

/-- How the program ends when it validates files once. -/
theorem run_once (shot : OneShot s args o e passes) :
    Comes e (targets s o) s.course (validateOnce e (targets s o) s.course) ∧
    (run s args).trace = (validateOnce e (targets s o) s.course).1.trace ∧ (run s args).form = formOf s o ∧
    (run s args).ending = endingAfter (consoleAfter (formOf s o) (run s args).trace)
      (validateOnce e (targets s o) s.course).2 := by
  obtain ⟨file, tree, logged, created⟩ := shot.created
  obtain ⟨_, orderly, _⟩ := passes_of_readable shot.readable
  refine ⟨validateOnce_comes created orderly shot.spontaneous, ?_⟩
  rw [run_eq_runOnce shot logged]
  dsimp only
  rw [runOnce, created]
  exact ⟨rfl, rfl, rfl⟩

/-- What is told of files that can all be read are the endings of their passes. -/
theorem OneShot.told (shot : OneShot s args o e passes) : ∃ ended, ended ⊆ passes ∧
    Told e (targets s o) ended (validateOnce e (targets s o) s.course).1 ∧
    errorsIn (run s args).trace = ended.flatMap (fun p => p.2.errorsAt e.host p.1) ∧
    ((∃ code, (run s args).ending = .exit code) ∨ Prompt e → ended.Perm passes) ∧
    ∀ f, (run s args).ending = .failed f → ∃ p ∈ ended, p.2.raised? e.host p.1 = some f := by
  obtain ⟨comes, trace, _, ending⟩ := run_once shot
  obtain ⟨all, _, untold⟩ := passes_of_readable shot.readable
  obtain ⟨ended, told, whole, failures⟩ := comes.told
  have distinct : Distinct e (targets s o) := by
    rw [Distinct, all]
    exact shot.distinct
  have among := told.among
  have errors := told.errors
  rw [all] at whole among
  rw [untold, List.nil_append] at errors
  refine ⟨ended, among, told, trace ▸ errors, fun cause => whole ?_, fun f failed => ?_⟩
  · rcases cause with ⟨code, exits⟩ | prompt
    · exact .inl (endingAfter_exit (ending.symm.trans exits))
    · exact .inr ⟨prompt, distinct⟩
  · exact (failures f (endingAfter_failed (ending.symm.trans failed))).resolve_left fun shared => shared.2 distinct

/-- An error message is shown. -/
def Complains (s : Setting) (args : List String) : Prop :=
  (consoleAfter (run s args).form (run s args).trace).errors ≠ []

/-- What the result of waiting tells of how the program ends. -/
theorem OneShot.ending_cases (shot : OneShot s args o e passes) :
    ((run s args).ending = .waiting ∧ (validateOnce e (targets s o) s.course).2 = none) ∨
    (∃ f, (run s args).ending = .failed f ∧ ∃ p ∈ passes, p.2.raised? e.host p.1 = some f) ∨
    ∃ b, (validateOnce e (targets s o) s.course).2 = some (.ok b) ∧
      (run s args).ending = .exit (if b || ! (errorsIn (run s args).trace).isEmpty then 1 else 0) := by
  obtain ⟨ended, among, _, _, _, failures⟩ := shot.told
  obtain ⟨_, _, _, ending⟩ := run_once shot
  cases given : (validateOnce e (targets s o) s.course).2 with
  | none =>
    rw [given] at ending
    exact .inl ⟨ending, rfl⟩
  | some r =>
    rw [given] at ending
    cases r with
    | error f =>
      obtain ⟨p, member, raised⟩ := failures f ending
      exact .inr (.inl ⟨f, ending, p, among member, raised⟩)
    | ok b =>
      rw [← consoleAfter_errors (formOf s o)]
      exact .inr (.inr ⟨b, rfl, ending⟩)

/-- What an exit with a code tells. -/
theorem OneShot.exits (shot : OneShot s args o e passes) {b : Bool}
    (given : (validateOnce e (targets s o) s.course).2 = some (.ok b))
    (ending : (run s args).ending = .exit (if b || ! (errorsIn (run s args).trace).isEmpty then 1 else 0)) :
    (∀ p ∈ passes, p.2.raised? e.host p.1 = none) ∧
    (b = true ↔ ∃ p ∈ passes, p.2.ShowsError) ∧ (Complains s args ↔ ∃ p ∈ passes, p.2.error? ≠ none) := by
  obtain ⟨comes, _, form, _⟩ := run_once shot
  obtain ⟨all, _, _⟩ := passes_of_readable shot.readable
  obtain ⟨_, unraised, shows⟩ := comes.result b given
  obtain ⟨ended, _, _, errors, whole, _⟩ := shot.told
  have same := whole (.inl ⟨_, ending⟩)
  rw [all] at unraised shows
  refine ⟨unraised, shows, ?_⟩
  rw [Complains, consoleAfter_errors, errors, ne_eq, List.flatMap_eq_nil_iff]
  simp only [Ending.errorsAt_eq_nil_iff, not_forall, same.mem_iff, exists_prop, ← ne_eq]

end

/-- A command line that validates files once exits with a code if all validations end, as they do if no
compiler holds its output back, and the console accepts the set of each report; otherwise it waits, or
the refusal goes out. The code is 1 if an error is shown, among the diagnostics of a file or as a
message, and 0 if not. A message is shown exactly if the pass of a file has no report. So, of the
programs that end, the code is 1 just for an error that is found or told, unless no message is shown
and all errors that were found are cut off by the limits of their files, or no error is found and the
console does not accept a set. -/
theorem once_exit_code {s : Setting} {args : List String} {o : Options} {e : Engine}
    {passes : List (Document × Engine.Ending)} (shot : OneShot s args o e passes) :
    (Prompt e → AllEnd e (targets s o) s.course) ∧
    (AllEnd e (targets s o) s.course → (run s args).ending ≠ .waiting ∧
      ((∃ code, (run s args).ending = .exit code) ↔ ∀ p ∈ passes, p.2.raised? e.host p.1 = none)) ∧
    (∀ f, (run s args).ending = .failed f → ∃ p ∈ passes, p.2.raised? e.host p.1 = some f) ∧
    (∀ code, (run s args).ending = .exit code → (code = 1 ∨ code = 0) ∧
      (code = 1 ↔ (∃ p ∈ passes, p.2.ShowsError) ∨ Complains s args) ∧
      (Complains s args ↔ ∃ p ∈ passes, p.2.error? ≠ none)) ∧
    ((run s args).ending ≠ .waiting →
      (((run s args).ending.code = 1 ↔ (∃ p ∈ passes, p.2.FindsError) ∨ Complains s args) ↔
        ¬ (¬ Complains s args ∧
          (((∀ p ∈ passes, p.2.raised? e.host p.1 = none) ∧ (∃ p ∈ passes, p.2.FindsError) ∧
              ∀ p ∈ passes, ¬ p.2.ShowsError) ∨
            ((∃ p ∈ passes, p.2.raised? e.host p.1 ≠ none) ∧ ∀ p ∈ passes, ¬ p.2.FindsError))))) := by
  have comes := (run_once shot).1
  obtain ⟨all, _, _⟩ := passes_of_readable shot.readable
  have found : (∃ p ∈ passes, p.2.ShowsError) → ∃ p ∈ passes, p.2.FindsError :=
    fun ⟨p, member, shown⟩ => ⟨p, member, shown.found⟩
  refine ⟨comes.prompt, ?_⟩
  rcases shot.ending_cases with ⟨waits, given⟩ | ⟨f, failed, p, member, raised⟩ | ⟨b, given, exits⟩
  · rw [waits]
    exact ⟨fun allEnd => absurd allEnd (comes.waits given), nofun, nofun, fun stopped => absurd rfl stopped⟩
  · have refused : ∃ p ∈ passes, p.2.raised? e.host p.1 ≠ none := ⟨p, member, by simp [raised]⟩
    have some_refused : ¬ ∀ p ∈ passes, p.2.raised? e.host p.1 = none := by simpa using refused
    rw [failed]
    refine ⟨fun _ => ⟨nofun, ?_⟩, fun g same => ?_, nofun, fun _ => ?_⟩
    · exact iff_of_false (fun ⟨code, same⟩ => nomatch same) some_refused
    · cases same
      exact ⟨p, member, raised⟩
    · have quiet : (∀ p ∈ passes, ¬ p.2.FindsError) ↔ ¬ ∃ p ∈ passes, p.2.FindsError := by simp
      rw [quiet, Ending.code]
      simp only [some_refused, refused, false_and, false_or, true_and, true_iff, not_and_or, not_not]
      exact or_comm
  · obtain ⟨unraised, shows, complains⟩ := shot.exits given exits
    have told : errorsIn (run s args).trace ≠ [] ↔ Complains s args := by rw [Complains, consoleAfter_errors]
    have one : (if b || ! (errorsIn (run s args).trace).isEmpty then 1 else 0) = 1 ↔
        (∃ p ∈ passes, p.2.ShowsError) ∨ Complains s args := by
      rw [← shows, ← told]
      cases b <;> cases errorsIn (run s args).trace <;> simp
    rw [exits]
    refine ⟨fun _ => ⟨nofun, iff_of_true ⟨_, rfl⟩ unraised⟩, nofun, fun code same => ?_, fun _ => ?_⟩
    · cases same
      refine ⟨?_, one, complains⟩
      split
      · exact .inl rfl
      · exact .inr rfl
    · have fine : ¬ ∃ p ∈ passes, p.2.raised? e.host p.1 ≠ none := by simpa using unraised
      have hidden : (∀ p ∈ passes, ¬ p.2.ShowsError) ↔ ¬ ∃ p ∈ passes, p.2.ShowsError := by simp
      rw [Ending.code, one, hidden]
      simp only [fine, false_and, or_false, and_iff_right unraised]
      exact or_iff_or_of_imp found

/-- The compiler of the small machine finds an error, of which the settings let nothing be shown. Of two
files, the output for the second one comes first. -/
def cutOff : Setting where
  machine :=
    let bytes := Encoding.Utf8.encode "\x7b\"maxNumberOfProblems\": 0\x7d".toList
    { smallMachine with
      tree := ⟨smallMachine.tree.entries ++ [(["b.c"], .file [10]), ([".cccdiag.json"], .file bytes)]⟩
      toolchain := { answer := fun _ => smallReply } }
  home := "/home"
  course := [.turned 0, .turned 0, .released 1, .turned 0, .released 0, .turned 0]

/-- An error is found while both compilers are running, and the code is 0. -/
theorem once_exit_code_cut_off :
    ∃ e p q, OneShot cutOff ["--once", "/a.c", "/b.c"] { files := ["/a.c", "/b.c"], once := true } e [p, q] ∧
      ¬ Prompt e ∧ p.2.FindsError ∧ (run cutOff ["--once", "/a.c", "/b.c"]).ending = .exit 0 := by
  have checked : (openLog cutOff.machine (defaultLog "/home")).toOption.any (fun opened =>
      (Engine.create { cutOff.machine with tree := opened.2 } (.console (.text {})) (folderOf "/home") none).toOption.any
        fun e => (e.passOver "/a.c").toOption.any (fun p => (e.passOver "/b.c").toOption.any fun q =>
          (∀ r ∈ [p, q], r.2.raised? (.console (.text {})) r.1 = none ∧ ¬ r.2.ShowsError ∧ r.2.error? = none) ∧
          p.2.FindsError ∧ p.1.uri ≠ q.1.uri) ∧
        ((openFiles e ["/a.c", "/b.c"]).1.run
          (toTheEnd (openFiles e ["/a.c", "/b.c"]).1 cutOff.course)).validations.all Validation.isDone) = true := by
    decide +kernel
  have once : Options.ofArguments ["--once", "/a.c", "/b.c"] = .ok { files := ["/a.c", "/b.c"], once := true } := by
    decide +kernel
  have usable : (targets cutOff { files := ["/a.c", "/b.c"], once := true }).findSome? (complaint? cutOff.machine) =
      none := by decide +kernel
  have target : targets cutOff { files := ["/a.c", "/b.c"], once := true } = ["/a.c", "/b.c"] := by decide +kernel
  have still : ∀ m ∈ cutOff.course, m.Spontaneous := by simp [cutOff, Move.Spontaneous]
  obtain ⟨opened, logged, checked⟩ := exists_ok_of_any checked
  obtain ⟨e, created, checked⟩ := exists_ok_of_any checked
  obtain ⟨passed, ended⟩ := of_decide_eq_true checked
  obtain ⟨p, ran, passed⟩ := exists_ok_of_any passed
  obtain ⟨q, ran', passed⟩ := exists_ok_of_any passed
  obtain ⟨quiet, found, apart⟩ := of_decide_eq_true passed
  have readable : (targets cutOff { files := ["/a.c", "/b.c"], once := true }).map e.passOver = [p, q].map .ok := by
    rw [target, List.map_cons, List.map_singleton, ran, ran']
    rfl
  have distinct : ([p, q].map (·.1.uri)).Nodup := by simpa using apart
  have shot : OneShot cutOff ["--once", "/a.c", "/b.c"] { files := ["/a.c", "/b.c"], once := true } e [p, q] :=
    ⟨once, rfl, rfl, usable, ⟨opened.1, opened.2, logged, created⟩, readable, distinct, still⟩
  have held : ¬ Prompt e := fun prompt => by
    have answer := prompt ⟨"", [], ""⟩
    rw [create_toolchain created] at answer
    cases answer
  have allEnd : AllEnd e (targets cutOff { files := ["/a.c", "/b.c"], once := true }) cutOff.course := by
    rw [target]
    exact fun n v known => List.all_eq_true.mp ended v (List.mem_of_getElem? known)
  obtain ⟨_, ends, _, codes, _⟩ := once_exit_code shot
  obtain ⟨code, exits⟩ := (ends allEnd).2.mpr fun r member => by
    rw [create_host created]
    exact (quiet r member).1
  obtain ⟨either, one, complains⟩ := codes code exits
  refine ⟨e, p, q, shot, held, found, ?_⟩
  rw [exits, either.resolve_left fun same => ?_]
  rcases one.mp same with ⟨r, member, shown⟩ | told
  · exact (quiet r member).2.1 shown
  · obtain ⟨r, member, message⟩ := complains.mp told
    exact message (quiet r member).2.2

end CommandLine

end Diagnosis
