import Diagnosis.CommandLine.Printing
import Diagnosis.Proofs.CommandLine.Exit
import Diagnosis.Proofs.Console

/-!
# What a single validation prints as JSON

A console that prints JSON prints a document for each set of diagnostics, in the order of the sets,
and nothing for messages of the log. But an error message is printed as it stands, so the output is
nothing but JSON as long as no pass fails, and no longer.
-/

namespace Diagnosis

open Diagnosis.Display (Styled bold red)
open Diagnosis.Text (digitLimit)

/-- The address and the diagnostics that something printed tells, if it is a JSON document that tells
them. -/
def Printed.set? : Printed → Option (String × List Diagnostic)
  | .json text => (Json.read text).toOption.bind Console.setOf?
  | _ => none

namespace Console

/-- An error message as it is printed. -/
def errorLine (message : String) : Printed := .styled (.of message (bold red))

/-- A set whose numbers can be written is printed as a document that tells it. -/
theorem printed_publish_of_short {uri : String} {ds : List Diagnostic} (short : ∀ d ∈ ds, d.Short) :
    ∃ text, printed .json (.publish uri ds) = [.json text] ∧ (Printed.json text).set? = some (uri, ds) := by
  have written : jsonOf uri ds = .ok (Json.render (documentOf uri ds)) := (jsonOf_eq_ok_iff ..).mpr ⟨short, rfl⟩
  obtain ⟨v, read, set⟩ := setOf?_of_jsonOf written
  refine ⟨_, by rw [printed_publish, written]; rfl, ?_⟩
  rw [Printed.set?, read]
  exact set

/-- A set is printed as JSON, if at all. -/
theorem json_of_mem_printed_publish {uri : String} {ds : List Diagnostic} {p : Printed}
    (among : p ∈ printed .json (.publish uri ds)) : ∃ text, p = .json text := by
  rw [printed_publish] at among
  obtain ⟨text, _, rfl⟩ := List.mem_map.mp among
  exact ⟨text, rfl⟩

end Console

namespace Engine

/-! ## The output of a trace -/

/-- What is printed as JSON of what has been seen. -/
def printedIn (trace : List Event) : List Printed := trace.flatMap (Event.printed .json)

theorem printedIn_eq_noticesIn (trace : List Event) :
    printedIn trace = (noticesIn trace).flatMap (Console.printed .json) := by
  induction trace with
  | nil => rfl
  | cons event rest ih =>
    rw [printedIn, List.flatMap_cons, ← printedIn, ih]
    cases event <;> rfl

/-- What has a value everywhere is its own values. -/
theorem map_eq_map_some_iff {α β : Type} (f : α → Option β) (l : List α) :
    l.map f = (l.filterMap f).map some ↔ l.filter (fun a => (f a).isNone) = [] := by
  induction l with
  | nil => simp
  | cons a rest ih =>
    cases value : f a with
    | some b => simpa [value] using ih
    | none =>
      have fewer : ((rest.filterMap f).map some).length < (none :: rest.map f).length := by
        simpa [Nat.lt_succ_iff] using List.length_filterMap_le f rest
      simp only [List.map_cons, value, List.filterMap_cons, List.filter_cons, Option.isNone_none, if_true, reduceCtorEq,
        iff_false]
      exact fun same => Nat.ne_of_gt fewer (congrArg List.length same)

/-- What is printed are the documents of the sets in their order, and error messages. -/
structure JsonOutput (trace : List Event) (printed : List Printed) : Prop where
  documents : printed.filterMap Printed.set? = setsIn trace
  lines : printed.filter (·.set?.isNone) = (errorsIn trace).map Console.errorLine

/-- There is one document for each set and nothing else if and only if no error is told. -/
theorem JsonOutput.pure_iff {trace : List Event} {printed : List Printed} (output : JsonOutput trace printed) :
    printed.map Printed.set? = (setsIn trace).map some ↔ errorsIn trace = [] := by
  rw [← output.documents, map_eq_map_some_iff, output.lines, List.map_eq_nil_iff]

theorem jsonOutput_printedIn {trace : List Event} (short : ∀ s ∈ setsIn trace, ∀ d ∈ s.2, d.Short) :
    JsonOutput trace (printedIn trace) := by
  rw [setsIn_eq_noticesIn] at short
  suffices both : (printedIn trace).filterMap Printed.set? = (noticesIn trace).filterMap Notice.set? ∧
      (printedIn trace).filter (·.set?.isNone) = ((noticesIn trace).filterMap Notice.error?).map Console.errorLine by
    exact ⟨both.1.trans (setsIn_eq_noticesIn trace).symm, both.2.trans (by rw [errorsIn_eq_noticesIn])⟩
  rw [printedIn_eq_noticesIn]
  generalize noticesIn trace = notices at short ⊢
  induction notices with
  | nil => exact ⟨rfl, rfl⟩
  | cons n rest ih =>
    cases n with
    | publish uri ds =>
      obtain ⟨first, others⟩ := List.forall_mem_cons.mp short
      obtain ⟨text, printed, told⟩ := Console.printed_publish_of_short first
      obtain ⟨documents, lines⟩ := ih others
      rw [List.flatMap_cons, printed, List.singleton_append, List.filterMap_cons, List.filter_cons, told, documents, lines]
      exact ⟨rfl, rfl⟩
    | error message =>
      obtain ⟨documents, lines⟩ := ih short
      exact ⟨documents, congrArg (Console.errorLine message :: ·) lines⟩
    | log message => exact ih short

/-- Only JSON is printed just as long as no error is told. -/
theorem forall_json_iff (trace : List Event) :
    (∀ p ∈ printedIn trace, ∃ text, p = .json text) ↔ errorsIn trace = [] := by
  rw [printedIn_eq_noticesIn, errorsIn_eq_noticesIn]
  induction noticesIn trace with
  | nil => simp
  | cons n rest ih =>
    rw [List.flatMap_cons, List.forall_mem_append, ih]
    cases n with
    | publish uri ds => exact and_iff_right fun p => Console.json_of_mem_printed_publish
    | error message =>
      refine iff_of_false (fun all => ?_) (List.cons_ne_nil _ _)
      obtain ⟨text, other⟩ := all.1 _ (List.mem_singleton_self _)
      cases other
    | log message => exact and_iff_right (List.forall_mem_nil _)

/-- Nothing is printed of a trace without sets and errors. -/
theorem printedIn_of_silent {trace : List Event} (errors : errorsIn trace = []) (sets : setsIn trace = []) :
    printedIn trace = [] := by
  have output : JsonOutput trace (printedIn trace) := jsonOutput_printedIn (by simp [sets])
  simpa [sets] using output.pure_iff.mpr errors

/-! ## The output of endings -/

/-- What is printed when a pass over a document ends. -/
def Ending.printed (d : Document) (ending : Ending) : List Printed :=
  ending.error?.toList.map Console.errorLine ++
    ending.set?.toList.flatMap fun ds => Console.printed .json (.publish d.uri ds)

/-- A console that prints JSON is told of endings as they are. -/
theorem Ending.noticesAt_json (d : Document) (ending : Ending) :
    ending.noticesAt (.console .json) d = ending.notices d := by
  cases ending with
  | reported limit r =>
    unfold noticesAt
    cases (reported limit r).refusal? (.console .json) d <;> exact List.append_nil _
  | uncompiled fault => exact noticesAt_of_accepted ((Console.refusal?_json_iff d.uri []).mpr (by simp))
  | failed f => exact List.append_nil _

theorem flatMap_printed_notices (d : Document) (ending : Ending) :
    (ending.notices d).flatMap (Console.printed .json) = ending.printed d := by
  cases ending with
  | reported limit r =>
    have silent : (r.issues.map fun i => Notice.log (d.name ++ ": " ++ i.describe)).flatMap (Console.printed .json) = [] := by
      simp [Console.printed]
    rw [Ending.notices, List.flatMap_append, silent]
    rfl
  | uncompiled fault => rfl
  | failed f => rfl

theorem Ending.error?_eq_none_iff (ending : Ending) : ending.error? = none ↔ ∃ limit r, ending = .reported limit r := by
  cases ending <;> simp [error?]

/-- The numbers of what an ending shows can be written, if the lines of the document are not too
long. -/
theorem Ending.short_of_ofRun {d : Document} {s : Settings} {run : Except Failure Output}
    {ds : List Diagnostic} (set : (ofRun d s run).set? = some ds)
    (narrow : ∀ l ∈ (LineTable.ofText d.text).lines, l.length < 10 ^ digitLimit) : ∀ x ∈ ds, x.Short := by
  cases run with
  | error f =>
    cases f with
    | engine f =>
      cases f with
      | invocation fault => cases set; simp
      | _ => cases set
    | _ => cases set
  | ok o =>
    cases told : reportOf d s o with
    | error f => rw [ofRun, told] at set; cases set
    | ok r =>
      rw [ofRun, told] at set
      cases set
      obtain ⟨text, _, reported⟩ := bind_eq_ok_iff.mp told
      exact fun x shown => report_short reported narrow x (mem_limited shown)

/-- What is shown of passes over documents whose lines are not too long can be written. -/
theorem short_of_passes {e : Engine} {files : List String} {passes ended : List (Document × Ending)}
    (loadable : files.map e.passOver = passes.map .ok) (among : ended ⊆ passes)
    (narrow : ∀ p ∈ passes, ∀ l ∈ (LineTable.ofText p.1.text).lines, l.length < 10 ^ digitLimit) :
    ∀ s ∈ setsOf ended, ∀ d ∈ s.2, d.Short := by
  intro s shown
  obtain ⟨⟨d, ending⟩, member, set⟩ := List.mem_flatMap.mp shown
  obtain ⟨ds, own, rfl⟩ := List.mem_map.mp set
  have passed : .ok (d, ending) ∈ files.map e.passOver :=
    loadable ▸ List.mem_map.mpr ⟨_, among member, rfl⟩
  obtain ⟨path, _, ran⟩ := List.mem_map.mp passed
  obtain ⟨_, s, _, rfl⟩ := passOver_ok ran
  exact Ending.short_of_ofRun (Option.mem_toList.mp own) (narrow _ (among member))

end Engine

namespace CommandLine

open Engine

/-- What a console that prints JSON has printed when the passes over some files have gone on in some
order and those that are listed have ended: for each of them an error message, if it has one, and the
document of its set, if it has one. -/
structure PrintedSoFar (passes ended : List (Document × Engine.Ending)) (trace : List Event) : Prop where
  order : ∃ order : List Nat, order.Nodup ∧ ended = order.filterMap (passes[·]?)
  printed : printedIn trace = ended.flatMap fun p => p.2.printed p.1
  sets : setsIn trace = setsOf ended
  /-- Only JSON is printed just as long as each of them has a report. -/
  pure : (∀ p ∈ printedIn trace, ∃ text, p = .json text) ↔ ∀ p ∈ ended, ∃ limit r, p.2 = .reported limit r
  /-- There is one document for each set, if no line is too long to have its length written. -/
  documents : (∀ p ∈ passes, ∀ l ∈ (LineTable.ofText p.1.text).lines, l.length < 10 ^ digitLimit) →
    JsonOutput trace (printedIn trace)

theorem printedSoFar {machine : Machine} {folder : Path} {workspace : Option String} {e : Engine}
    (created : create machine (.console .json) folder workspace = .ok e) {files : List String}
    {passes : List (Document × Engine.Ending)} (loadable : files.map e.passOver = passes.map .ok)
    {moves : List Move} (spontaneous : ∀ m ∈ moves, m.Spontaneous) :
    ∃ ended, PrintedSoFar passes ended ((openFiles e files).1.run moves).trace ∧
      (AllDone ((openFiles e files).1.run moves) → (passes.map (·.1.uri)).Nodup → ended.Perm passes) := by
  obtain ⟨all, orderly, untold⟩ := passes_of_readable loadable
  obtain ⟨unborn, _, _, _, unset⟩ := create_eq created
  obtain ⟨opened, _⟩ := openFiles_opened created orderly
  obtain ⟨order, underway⟩ := (opened.ready.underway opened.reread.registered).run opened.ready spontaneous
  rw [List.nil_append] at underway
  have told := underway.told_ended
  have whole := opened.endings_eq unborn
  rw [whole, all, opened.host, create_host created] at told
  obtain ⟨errors, sets⟩ := told_endings told
  obtain ⟨events, grown, reasons⟩ := opened.reread.told
  obtain ⟨more, quietly, nothing⟩ := opened.quiet
  have silent : errorsIn (openFiles e files).1.trace = [] := by
    rw [grown, errorsIn_append, create_untold created, reasons, untold]
    rfl
  have empty : setsIn (openFiles e files).1.trace = [] := by
    rw [quietly, setsIn_append, unset, nothing]
    rfl
  rw [silent, List.nil_append] at errors
  rw [empty, List.nil_append] at sets
  refine ⟨_, ⟨⟨order, underway.once, rfl⟩, ?_, sets, ?_, fun narrow => ?_⟩, fun done distinct => ?_⟩
  · rw [printedIn_eq_noticesIn, told, List.flatMap_append, ← printedIn_eq_noticesIn,
      printedIn_of_silent silent empty, List.nil_append, List.flatMap_assoc]
    simp only [Ending.noticesAt_json, flatMap_printed_notices]
  · rw [forall_json_iff, errors, List.flatMap_eq_nil_iff]
    simp only [Ending.errorsAt_eq_nil_iff, Ending.error?_eq_none_iff]
  · refine jsonOutput_printedIn ?_
    rw [sets]
    refine short_of_passes loadable (fun p member => ?_) narrow
    obtain ⟨n, _, there⟩ := List.mem_filterMap.mp member
    exact List.mem_of_getElem? there
  · have distinct : Distinct e files := by
      rw [Distinct, all]
      exact distinct
    have same := underway.ended_all done ((opened.uncalled_iff unborn).mpr distinct)
    rwa [whole, all] at same

/-- What a run that prints JSON prints is the output of its trace. -/
theorem printed_eq_printedIn {t : Transcript} (json : t.form = .json) : t.printed = printedIn t.trace := by
  rw [Transcript.printed, json]
  rfl

/-- A run that prints JSON prints a document for each set of diagnostics, in the order of the sets, and
the error messages; so it prints one document for each set and nothing else if and only if no error is
told. If all of its files can be read, and it exits with a code or no compiler holds its output back,
this is so if and only if each pass has a report: not if a compiler gives no result, and not if a pass
fails. In whatever order the passes over files have their turns and compilers their output, what is
printed so far are, for one pass that has ended after the other, its error message and the document of
its set. -/
theorem once_json_output (s : Setting) (args : List String) :
    ((run s args).form = .json → (∀ shown ∈ setsIn (run s args).trace, ∀ d ∈ shown.2, d.Short) →
      JsonOutput (run s args).trace (run s args).printed ∧
      ((run s args).printed.map Printed.set? = (setsIn (run s args).trace).map some ↔
        errorsIn (run s args).trace = [])) ∧
    (∀ o e passes, OneShot s args o e passes → o.json = true →
      (∃ code, (run s args).ending = .exit code) ∨ Prompt e →
      ((∀ p ∈ (run s args).printed, ∃ text, p = .json text) ↔
        ∀ p ∈ passes, ∃ limit r, p.2 = .reported limit r)) ∧
    ∀ machine folder workspace e, create machine (.console .json) folder workspace = .ok e →
      ∀ files passes, files.map e.passOver = passes.map .ok → ∀ moves : List Move, (∀ m ∈ moves, m.Spontaneous) →
        ∃ ended, PrintedSoFar passes ended ((openFiles e files).1.run moves).trace ∧
          (AllDone ((openFiles e files).1.run moves) → (passes.map (·.1.uri)).Nodup → ended.Perm passes) := by
  refine ⟨fun json short => ?_, fun o e passes shot json cause => ?_,
    fun machine folder workspace e created files passes loadable moves => printedSoFar created loadable⟩
  · have output := jsonOutput_printedIn short
    rw [← printed_eq_printedIn json] at output
    exact ⟨output, output.pure_iff⟩
  · have form : (run s args).form = .json := by rw [(run_once shot).2.2.1, formOf, if_pos json]
    obtain ⟨ended, _, _, errors, whole, _⟩ := shot.told
    rw [printed_eq_printedIn form, forall_json_iff, errors, List.flatMap_eq_nil_iff]
    simp only [Ending.errorsAt_eq_nil_iff, Ending.error?_eq_none_iff, (whole cause).mem_iff]

/-- The small machine without its compiler. -/
def uncompiling : Setting where
  machine := { promptMachine with toolchain := { missing := ["gcc"] } }
  home := "/home"

/-- An error message is printed before the document of the empty set. -/
theorem once_json_output_uncompiling :
    ∃ e p ended, OneShot uncompiling ["--once", "--json", "/a.c"] { files := ["/a.c"], once := true, json := true } e [p] ∧
      JsonOutput (run uncompiling ["--once", "--json", "/a.c"]).trace
        (run uncompiling ["--once", "--json", "/a.c"]).printed ∧
      (¬ ∀ q ∈ (run uncompiling ["--once", "--json", "/a.c"]).printed, ∃ text, q = .json text) ∧
      PrintedSoFar [p] ended ((openFiles e ["/a.c"]).1.run [.turned 0]).trace := by
  have checked : (openLog uncompiling.machine (defaultLog "/home")).toOption.any (fun opened =>
      (Engine.create { uncompiling.machine with tree := opened.2 } (.console .json) (folderOf "/home") none).toOption.any
        fun e => (e.passOver "/a.c").toOption.any fun p => p.2.error?.isSome) = true := by
    decide +kernel
  have shown : setsIn (run uncompiling ["--once", "--json", "/a.c"]).trace = [("file:///a.c", [])] := by
    decide +kernel
  have once : Options.ofArguments ["--once", "--json", "/a.c"] =
      .ok { files := ["/a.c"], once := true, json := true } := by decide +kernel
  have target : targets uncompiling { files := ["/a.c"], once := true, json := true } = ["/a.c"] := by decide +kernel
  have usable : (targets uncompiling { files := ["/a.c"], once := true, json := true }).findSome?
      (complaint? uncompiling.machine) = none := by decide +kernel
  obtain ⟨opened, logged, holds⟩ := exists_ok_of_any checked
  obtain ⟨e, created, passed⟩ := exists_ok_of_any holds
  obtain ⟨p, ran, failed⟩ := exists_ok_of_any passed
  have readable : (targets uncompiling { files := ["/a.c"], once := true, json := true }).map e.passOver =
      [p].map .ok := by
    rw [target, List.map_singleton, ran]
    rfl
  have shot : OneShot uncompiling ["--once", "--json", "/a.c"] { files := ["/a.c"], once := true, json := true } e [p] :=
    ⟨once, rfl, rfl, usable, ⟨opened.1, opened.2, logged, created⟩, readable, List.nodup_singleton _,
      List.forall_mem_nil _⟩
  have prompt : Prompt e := fun _ => by rw [create_toolchain created]; rfl
  obtain ⟨printed, only, underway⟩ := once_json_output uncompiling ["--once", "--json", "/a.c"]
  obtain ⟨ended, soFar, _⟩ := underway _ _ _ e created ["/a.c"] [p] (target ▸ readable) [.turned 0]
    (by simp [Move.Spontaneous])
  refine ⟨e, p, ended, shot, (printed (run_once shot).2.2.1 (by simp [shown])).1, fun pure => ?_, soFar⟩
  have reported := (only _ e [p] shot rfl (.inr prompt)).mp pure p (List.mem_singleton_self p)
  rw [← Ending.error?_eq_none_iff] at reported
  rw [reported] at failed
  cases failed

end CommandLine

end Diagnosis
