import Diagnosis.Proofs.CommandLine.Gathering
import Diagnosis.Proofs.Engine.Mirror

/-!
# What is told of files

What a host has been told of files that are validated together are the reasons of
those that cannot be read, and the endings of the others that have ended. Each of
these depends on its own file alone, and shows a set or an error.
-/

namespace Diagnosis

namespace Engine

/-! ## What endings tell -/

/-- The error message of an ending, if it has one. -/
def Ending.error? : Ending → Option String
  | .reported _ _ => none
  | .uncompiled fault => some (notificationOf fault.message)
  | .failed f => some (notificationOf (wordsOf f))

/-- The sets that endings of documents show. -/
def setsOf (passes : List (Document × Ending)) : List (String × List Diagnostic) :=
  passes.flatMap fun p => p.2.set?.toList.map (p.1.uri, ·)

/-- Every ending shows a set or an error. -/
theorem Ending.seen (ending : Ending) : ending.set?.isSome = true ∨ ending.error?.isSome = true := by
  cases ending <;> simp [set?, error?]

theorem filterMap_logs {α : Type} {f : Notice → Option α} (unlogged : ∀ message, f (.log message) = none)
    (texts : Issue → String) (issues : List Issue) : (issues.map fun i => .log (texts i)).filterMap f = [] := by
  rw [List.filterMap_map, List.filterMap_eq_nil_iff]
  exact fun i _ => unlogged _

/-- The error messages of an ending with a host. -/
def Ending.errorsAt (host : Host) (d : Document) (ending : Ending) : List String :=
  ending.error?.toList ++ (((ending.refusal? host d).map ending.afterwards).getD []).filterMap Notice.error?

theorem errors_notices (host : Host) (d : Document) (ending : Ending) :
    (ending.noticesAt host d).filterMap Notice.error? = ending.errorsAt host d := by
  rw [Ending.noticesAt, List.filterMap_append, Ending.errorsAt]
  refine congrArg (· ++ _) ?_
  cases ending with
  | reported limit r =>
    rw [Ending.notices, List.filterMap_append, filterMap_logs fun _ => rfl]
    rfl
  | uncompiled fault => rfl
  | failed f => rfl

theorem sets_notices (host : Host) (d : Document) (ending : Ending) :
    (ending.noticesAt host d).filterMap Notice.set? = ending.set?.toList.map (d.uri, ·) := by
  rw [Ending.noticesAt, List.filterMap_append]
  cases ending with
  | reported limit r =>
    have nothing : ((((Ending.reported limit r).refusal? host d).map (Ending.reported limit r).afterwards).getD []) = [] := by
      cases (Ending.reported limit r).refusal? host d <;> rfl
    rw [Ending.notices, List.filterMap_append, filterMap_logs fun _ => rfl, nothing]
    rfl
  | uncompiled fault =>
    cases (Ending.uncompiled fault).refusal? host d <;> rfl
  | failed f => rfl

/-- An ending has no error message with a host just if it has none by itself. -/
theorem Ending.errorsAt_eq_nil_iff (host : Host) (d : Document) (ending : Ending) :
    ending.errorsAt host d = [] ↔ ending.error? = none := by
  unfold errorsAt
  cases ending with
  | reported limit r => cases (reported limit r).refusal? host d <;> simp [error?, afterwards]
  | uncompiled fault => simp [error?]
  | failed f => simp [error?]

theorem Ending.mem_errorsAt {host : Host} {d : Document} {ending : Ending} {message : String}
    (told : ending.error? = some message) : message ∈ ending.errorsAt host d :=
  List.mem_append_left _ (Option.mem_toList.mpr told)

/-- What is seen of the endings of documents that are told one after the other. -/
theorem told_endings {host : Host} {first last : List Event} {passes : List (Document × Ending)}
    (told : noticesIn last = noticesIn first ++ passes.flatMap fun p => p.2.noticesAt host p.1) :
    errorsIn last = errorsIn first ++ passes.flatMap (fun p => p.2.errorsAt host p.1) ∧
    setsIn last = setsIn first ++ setsOf passes := by
  constructor
  · rw [errorsIn_eq_noticesIn, told, List.filterMap_append, ← errorsIn_eq_noticesIn, List.filterMap_flatMap]
    simp only [errors_notices]
  · rw [setsIn_eq_noticesIn, told, List.filterMap_append, ← setsIn_eq_noticesIn, List.filterMap_flatMap]
    simp only [sets_notices]
    rfl

/-- Documents with addresses of their own have the sets of their own endings. -/
theorem setsOf_filter {passes : List (Document × Ending)} (distinct : (passes.map (·.1.uri)).Nodup)
    {p : Document × Ending} (member : p ∈ passes) :
    (setsOf passes).filter (·.1 == p.1.uri) = p.2.set?.toList.map (p.1.uri, ·) := by
  have own (q : Document × Ending) : (q.2.set?.toList.map (q.1.uri, ·)).filter (·.1 == p.1.uri) =
      if q.1.uri = p.1.uri then q.2.set?.toList.map (q.1.uri, ·) else [] := by
    cases q.2.set? with
    | none => simp
    | some ds => by_cases same : q.1.uri = p.1.uri <;> simp [same]
  induction passes with
  | nil => cases member
  | cons q rest ih =>
    rw [List.map_cons, List.nodup_cons] at distinct
    rw [setsOf, List.flatMap_cons, List.filter_append, own]
    rcases List.mem_cons.mp member with rfl | later
    · have others : (setsOf rest).filter (·.1 == p.1.uri) = [] := by
        rw [List.filter_eq_nil_iff]
        rintro ⟨uri, ds⟩ shown same
        obtain ⟨q, among, set⟩ := List.mem_flatMap.mp shown
        obtain ⟨_, _, pair⟩ := List.mem_map.mp set
        cases pair
        exact distinct.1 (List.mem_map.mpr ⟨q, among, beq_iff_eq.mp same⟩)
      rw [if_pos rfl]
      exact (congrArg _ others).trans (List.append_nil _)
    · have other : q.1.uri ≠ p.1.uri := by
        intro same
        exact distinct.1 (List.mem_map.mpr ⟨p, later, same.symm⟩)
      rw [if_neg other, List.nil_append]
      exact ih distinct.2 later

/-- The last set of a document with an address of its own is that of its ending. -/
theorem lastSet_endings {trace : List Event} {passes : List (Document × Ending)} (sets : setsIn trace = setsOf passes)
    (distinct : (passes.map (·.1.uri)).Nodup) {p : Document × Ending} (member : p ∈ passes) :
    lastSet trace p.1.uri = p.2.set? := by
  rw [lastSet, sets, setsOf_filter distinct member]
  cases p.2.set? <;> rfl

/-! ## Errors that are shown -/

theorem mem_of_lastSet {trace : List Event} {uri : String} {ds : List Diagnostic} (last : lastSet trace uri = some ds) :
    (uri, ds) ∈ setsIn trace := by
  rw [lastSet, Option.map_eq_some_iff] at last
  obtain ⟨⟨other, ds'⟩, found, rfl⟩ := last
  have member := List.mem_filter.mp (List.mem_of_getLast? found)
  rw [← beq_iff_eq.mp member.2]
  exact member.1

/-- An ending shows an error among its diagnostics. -/
def Ending.ShowsError (ending : Ending) : Prop :=
  ∃ limit r, ending = .reported limit r ∧ hasError (limited limit r.diagnostics) = true

/-- An error has been found in the output of a compiler. -/
def Ending.FindsError (ending : Ending) : Prop :=
  ∃ limit r, ending = .reported limit r ∧ hasError r.diagnostics = true

theorem Ending.showsError_iff (ending : Ending) :
    ending.ShowsError ↔ ∃ ds, ending.set? = some ds ∧ hasError ds = true := by
  constructor
  · rintro ⟨limit, r, rfl, errors⟩
    exact ⟨_, rfl, errors⟩
  · rintro ⟨ds, set, errors⟩
    cases ending with
    | reported limit r =>
      cases set
      exact ⟨limit, r, rfl, errors⟩
    | uncompiled fault => cases set; cases errors
    | failed f => cases set

/-- The diagnostics of an ending, before any of them are cut off. -/
def Ending.found : Ending → List Diagnostic
  | .reported _ r => r.diagnostics
  | _ => []

theorem Ending.findsError_iff (ending : Ending) : ending.FindsError ↔ hasError ending.found = true := by
  constructor
  · rintro ⟨limit, r, rfl, errors⟩
    exact errors
  · intro errors
    cases ending with
    | reported limit r => exact ⟨limit, r, rfl, errors⟩
    | uncompiled fault => cases errors
    | failed f => cases errors

instance (ending : Ending) : Decidable ending.FindsError := decidable_of_iff _ ending.findsError_iff.symm

theorem Ending.showsError_iff_any (ending : Ending) : ending.ShowsError ↔ ending.set?.any hasError = true := by
  rw [ending.showsError_iff, Option.any_eq_true]

instance (ending : Ending) : Decidable ending.ShowsError := decidable_of_iff _ ending.showsError_iff_any.symm

theorem mem_limited {limit : Int} {ds : List Diagnostic} {d : Diagnostic} (member : d ∈ limited limit ds) : d ∈ ds := by
  unfold limited at member
  split at member
  · exact member
  · exact List.mem_of_mem_take member

/-- What is shown has been found. -/
theorem Ending.ShowsError.found {ending : Ending} (shown : ending.ShowsError) : ending.FindsError := by
  obtain ⟨limit, r, rfl, errors⟩ := shown
  obtain ⟨d, member, severe⟩ := List.any_eq_true.mp errors
  exact ⟨limit, r, rfl, List.any_eq_true.mpr ⟨d, mem_limited member, severe⟩⟩

/-! ## The files that have been opened -/

theorem create_untold {machine : Machine} {host : Host} {folder : Path} {workspace : Option String} {e : Engine}
    (created : create machine host folder workspace = .ok e) : errorsIn e.trace = [] := by
  obtain ⟨_, _, warning, rfl⟩ := exists_of_create created
  exact errorsIn_of_noticesIn (noticesIn_warning warning)

theorem create_toolchain {machine : Machine} {host : Host} {folder : Path} {workspace : Option String} {e : Engine}
    (created : create machine host folder workspace = .ok e) : e.machine.toolchain = machine.toolchain := by
  obtain ⟨_, _, _, rfl⟩ := exists_of_create created
  rfl

theorem coherent_create {machine : Machine} {host : Host} {folder : Path} {workspace : Option String} {e : Engine}
    (created : create machine host folder workspace = .ok e) : Coherent e := by
  obtain ⟨_, _, _, session, _⟩ := create_eq created
  intro uri s kept
  rw [session] at kept
  cases kept

theorem workspace_stable (workspace : Option String) : Stable fun e => e.workspace = workspace where
  remembers _ _ holds := holds
  speaks _ _ _ holds := holds
  moves _ _ _ holds := holds
  opens e d holds := by
    obtain ⟨queue, events, _, opened⟩ := e.openDocument_eq d
    rw [opened]
    exact holds

/-- Files that have been opened together, none of them failing but as the engine fails. -/
structure Opened (e : Engine) (files : List String) (x : Engine) : Prop where
  reread : Reread e (files.map e.handleFile) x (.ok (List.range (e.passes files).length))
  ready : Ready x
  host : x.host = e.host
  workspace : x.workspace = e.workspace
  announced : Announced x
  quiet : Quiet e x

end Engine

namespace CommandLine

open Engine

theorem openFiles_opened {machine : Machine} {host : Host} {folder : Path} {workspace : Option String} {e : Engine}
    (created : create machine host folder workspace = .ok e) {files : List String}
    (orderly : (files.map e.handleFile).findSome? Handling.raised? = none) :
    Opened e files (openFiles e files).1 ∧ (openFiles e files).2 = .ok (List.range (e.passes files).length) := by
  have each := opensEach (coherent_create created) (registered_create created) (ready_create created) files
  have reread := each.reread orderly
  have returned := reread.returned
  rw [outcomeOf, orderly, accepted_passes, List.length_map, (create_eq created).1] at returned
  dsimp only [List.length_nil] at returned
  rw [← List.range_eq_range'] at returned
  rw [returned] at reread
  refine ⟨⟨reread, each.ready orderly, ?_, ?_, ?_, ?_⟩, returned⟩
  · exact stable_openFiles (host_invariant e.host).toStable e files rfl
  · exact stable_openFiles (workspace_stable e.workspace) e files rfl
  · exact stable_openFiles announced_stable e files (announced_create created)
  · exact (stable_openFiles (resting_stable e) e files ⟨.refl e, .refl e⟩).2

end CommandLine

namespace Engine

section

variable {e x : Engine} {files : List String}

theorem passOver_of_mem {p : Document × Ending} (member : p ∈ e.passes files) : ∃ path, e.passOver path = .ok p := by
  obtain ⟨path, _, passed⟩ := List.mem_filterMap.mp member
  cases ran : e.passOver path with
  | error f =>
    rw [ran] at passed
    cases passed
  | ok p' =>
    rw [ran] at passed
    cases passed
    exact ⟨path, ran⟩

/-- The documents that have been opened are those of the passes. -/
theorem Opened.documents (opened : Opened e files x) (unborn : e.validations = []) :
    x.validations.map (·.document) = (e.passes files).map Prod.fst := by
  rw [opened.reread.triggered, unborn, accepted_passes]
  rfl

/-- What the passes over files come to, each by itself, is what the validations come to after all
files have been opened. -/
theorem Opened.endings_eq (opened : Opened e files x) (unborn : e.validations = []) :
    x.endings = e.passes files := by
  have documents := opened.documents unborn
  have own : ∀ p ∈ e.passes files, (p.1, x.endingOf p.1) = p := by
    rintro ⟨d, ending⟩ member
    obtain ⟨path, passed⟩ := passOver_of_mem member
    obtain ⟨read, s, found, rfl⟩ := passOver_ok passed
    obtain ⟨q, resolved, address⟩ := address_of_readNow read
    obtain ⟨n, known⟩ : ∃ n, (x.validations.map (·.document))[n]? = some d := by
      rw [documents]
      exact List.getElem?_of_mem (List.mem_map.mpr ⟨_, member, rfl⟩)
    rw [List.getElem?_map, Option.map_eq_some_iff] at known
    obtain ⟨v, known, rfl⟩ := known
    obtain ⟨s', provided⟩ := Option.isSome_iff_exists.mp (opened.ready.provided n v known)
    have same : s' = s := by
      have now : x.settingsNow path = .ok s' :=
        opened.reread.coherent.remembered (by rw [opened.reread.machine, resolved]) (by rw [← address, provided])
      have before : x.settingsNow path = e.settingsNow path := by
        unfold settingsNow
        rw [opened.reread.machine, opened.reread.store]
      rw [before, found] at now
      cases now
      rfl
    subst same
    rw [endingOf, settingsFor_result, provided]
    dsimp only
    rw [opened.reread.machine, opened.workspace]
  calc x.endings = (x.validations.map (·.document)).map fun d => (d, x.endingOf d) := by
        rw [endings, List.map_map]
        rfl
    _ = (e.passes files).map fun p => (p.1, x.endingOf p.1) := by
        rw [documents, List.map_map]
        rfl
    _ = e.passes files := (List.map_congr_left own).trans (List.map_id _)

end

/-! ## What has been told -/

/-- The files that can be read are different files. -/
def Distinct (e : Engine) (files : List String) : Prop := ((e.passes files).map (·.1.uri)).Nodup

/-- What a host has been told of files when some passes over them have ended: the reasons of the files
that could not be read, and these endings, each of another document. Each depends on its own file
alone, and shows a set or an error. -/
structure Told (e : Engine) (files : List String) (ended : List (Document × Ending)) (x : Engine) : Prop where
  among : ended ⊆ e.passes files
  distinct : (ended.map (·.1.uri)).Nodup
  errors : errorsIn x.trace = (files.map e.handleFile).filterMap Handling.notified? ++
    ended.flatMap fun p => p.2.errorsAt e.host p.1
  sets : setsIn x.trace = setsOf ended
  shown : ∀ p ∈ ended, lastSet x.trace p.1.uri = p.2.set? ∧
    (∀ message, p.2.error? = some message → message ∈ errorsIn x.trace) ∧
    (p.2.set?.isSome = true ∨ p.2.error?.isSome = true)

section

variable {e x y z : Engine} {files : List String} {order : List Nat} {ended : List (Document × Ending)}

theorem Told.of_parts (among : ended ⊆ e.passes files) (distinct : (ended.map (·.1.uri)).Nodup)
    (errors : errorsIn x.trace = (files.map e.handleFile).filterMap Handling.notified? ++
      ended.flatMap fun p => p.2.errorsAt e.host p.1)
    (sets : setsIn x.trace = setsOf ended) : Told e files ended x where
  among := among
  distinct := distinct
  errors := errors
  sets := sets
  shown p member := by
    refine ⟨lastSet_endings sets distinct member, fun message error => ?_, p.2.seen⟩
    rw [errors]
    exact List.mem_append_right _ (List.mem_flatMap.mpr ⟨p, member, Ending.mem_errorsAt error⟩)

/-- Nothing more is told. -/
theorem Told.of_untold (told : Told e files ended x) (same : noticesIn z.trace = noticesIn x.trace) :
    Told e files ended z :=
  .of_parts told.among told.distinct
    (by rw [errorsIn_eq_noticesIn, same, ← errorsIn_eq_noticesIn, told.errors])
    (by rw [setsIn_eq_noticesIn, same, ← setsIn_eq_noticesIn, told.sets])

/-- Different documents have ended. -/
theorem Underway.ended_distinct (underway : Underway e x order) (ready : Ready e) (registered : Registered e) :
    ((order.filterMap (e.endings[·]?)).map (·.1.uri)).Nodup := by
  -- of validations that have not been called off, each has its own address
  have waited {n : Nat} {uri : String} (member : n ∈ order) (address : e.endings[n]?.map (·.1.uri) = some uri) :
      ∃ v, e.validations[n]? = some v ∧ v.document.uri = uri ∧ v.isDone = false ∧ v.cancelled = false := by
    obtain ⟨v, known, uncalled, _⟩ := (underway.ended n).mp member
    obtain ⟨⟨w, before, _, called⟩, _⟩ := underway.stands n v known
    refine ⟨w, before, ?_, by rw [Validation.isDone, ready.created n w before], called ▸ uncalled⟩
    simpa [endings, before] using address
  rw [List.map_filterMap, List.Nodup, List.pairwise_filterMap]
  refine underway.once.imp_of_mem fun first second other uri named uri' named' => ?_
  obtain ⟨v, known, rfl, live⟩ := waited first named
  obtain ⟨w, found, rfl, liveToo⟩ := waited second named'
  exact (registered.apart known found live liveToo other).symm

/-- What has been told are the reasons of the files that could not be read, and the endings of the
others in the order in which they came. -/
theorem Opened.told (opened : Opened e files x) (unborn : e.validations = [])
    (silent : errorsIn e.trace = [] ∧ setsIn e.trace = []) (underway : Underway x y order) :
    Told e files (order.filterMap ((e.passes files)[·]?)) y := by
  have distinct := underway.ended_distinct opened.ready opened.reread.registered
  obtain ⟨errors, sets⟩ := told_endings underway.told_ended
  rw [opened.endings_eq unborn] at distinct errors sets
  rw [opened.host] at errors
  obtain ⟨events, grown, reasons⟩ := opened.reread.told
  obtain ⟨more, quietly, nothing⟩ := opened.quiet
  refine .of_parts (fun p member => ?_) distinct ?_ ?_
  · obtain ⟨n, _, there⟩ := List.mem_filterMap.mp member
    exact List.mem_of_getElem? there
  · rw [errors, grown, errorsIn_append, silent.1, reasons]
    rfl
  · rw [sets, quietly, setsIn_append, silent.2, nothing]
    rfl

/-- No validation has been called off if and only if the files are different. -/
theorem Opened.uncalled_iff (opened : Opened e files x) (unborn : e.validations = []) :
    (∀ (n : Nat) (v : Validation), x.validations[n]? = some v → v.cancelled = false) ↔ Distinct e files := by
  rw [opened.ready.uncalled_iff opened.reread.registered, opened.endings_eq unborn]
  rfl

/-- When all have ended, all of different files have told their endings. -/
theorem Opened.told_all (opened : Opened e files x) (unborn : e.validations = []) (underway : Underway x y order)
    (done : AllDone y) (distinct : Distinct e files) :
    (order.filterMap ((e.passes files)[·]?)).Perm (e.passes files) := by
  have same := underway.ended_all done ((opened.uncalled_iff unborn).mpr distinct)
  rwa [opened.endings_eq unborn] at same

/-- An error is remembered if and only if some ending shows one. -/
theorem Told.anyErrors_iff (told : Told e files ended x) (displayed : Displayed x) :
    x.session.anyErrors = true ↔ ∃ p ∈ ended, p.2.ShowsError := by
  rw [displayed.error_iff]
  constructor
  · rintro ⟨uri, ds, last, errors⟩
    have shown := mem_of_lastSet last
    rw [told.sets] at shown
    obtain ⟨p, member, set⟩ := List.mem_flatMap.mp shown
    obtain ⟨ds', mine, pair⟩ := List.mem_map.mp set
    cases pair
    exact ⟨p, member, p.2.showsError_iff.mpr ⟨_, Option.mem_toList.mp mine, errors⟩⟩
  · rintro ⟨p, member, shows⟩
    obtain ⟨ds, set, errors⟩ := p.2.showsError_iff.mp shows
    exact ⟨p.1.uri, ds, (told.shown p member).1.trans set, errors⟩

end

end Engine

end Diagnosis
