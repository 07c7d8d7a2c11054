import Diagnosis.Compiler.Run
import Diagnosis.Proofs.Address

/-!
# How a run comes out

A run fails before anything is started if include paths have no workspace root to start
from, and then if there is no such command. Once a program is started it runs where its
source file is, and gives what it has written, unless it fails and has nothing to say.
-/

namespace Diagnosis

/-! ## A directory and a name in it -/

namespace Path

theorem ofString_part {part : String}
    (named : '/' ∉ part.toList ∧ part.toList ≠ [] ∧ part.toList ≠ ['.']) :
    ofString part = ⟨"", [part]⟩ := by
  have plain : Plain ⟨"", [part]⟩ := ⟨.inl rfl, fun other member => by rwa [List.mem_singleton.mp member]⟩
  have shown : text ⟨"", [part]⟩ = part := by simp [text]
  have same := ofString_text plain
  rwa [shown] at same

/-- The name of a path in the directory of the path is the path again. -/
theorem joined_name {p : Path} (plain : p.Plain) : (ofString p.parent.text).joined p.name = p := by
  rw [ofString_text plain.parent]
  obtain ⟨root, parts⟩ := p
  rcases List.eq_nil_or_concat parts with rfl | ⟨before, part, rfl⟩
  · simp [joined, name, parent, show ofString "" = ⟨"", []⟩ from rfl]
  · have named := plain.parts part (by simp)
    simp [joined, name, parent, ofString_part named]

end Path

namespace Compiler

/-! ## The call -/

/-- Relative include paths have no workspace root to start from. -/
def Rootless (s : Settings) (workspace : Option String) : Prop :=
  s.relativeIncludes ≠ [] ∧ (workspace = none ∨ workspace = some "")

/-- The call for a source file, with a flag for each include path in order. -/
def callOf (s : Settings) (source : String) (workspace : Option String) : Invocation where
  command := s.command
  arguments := s.options ++ s.absoluteIncludes.map (s.includeFlag ++ ·) ++
    s.relativeIncludes.map (fun p => s.includeFlag ++ Path.absolute (workspace.getD "") p) ++ [fileName source]
  directory := (Path.ofString source).parent.text

variable {s : Settings} {workspace : Option String}

theorem workspaceOf_eq_none_iff : workspaceOf workspace = none ↔ workspace = none ∨ workspace = some "" := by
  cases workspace with
  | none => simp [workspaceOf]
  | some root => simp [workspaceOf, Option.filter_eq_none_iff]

theorem workspaceOf_of_some {root : String} (given : workspaceOf workspace = some root) : workspace = some root := by
  unfold workspaceOf at given
  exact (Option.filter_eq_some_iff.mp given).1

theorem of_rootless (rootless : Rootless s workspace) (source : String) :
    Invocation.of s source workspace = .error .noWorkspace := by
  obtain ⟨relative, absent⟩ := rootless
  have rootless := workspaceOf_eq_none_iff.mpr absent
  simp [Invocation.of, arguments, includeFlags, relative, rootless, bind, Except.bind]

/-- There is a call as soon as relative include paths have a root. -/
theorem of_rooted (rooted : ¬ Rootless s workspace) (source : String) :
    Invocation.of s source workspace = .ok (callOf s source workspace) := by
  by_cases relative : s.relativeIncludes = []
  · simp [Invocation.of, arguments, includeFlags, callOf, relative, bind, Except.bind, pure, Except.pure]
  · cases given : workspaceOf workspace with
    | none => exact absurd ⟨relative, workspaceOf_eq_none_iff.mp given⟩ rooted
    | some root =>
      obtain rfl := workspaceOf_of_some given
      simp [Invocation.of, arguments, includeFlags, callOf, relative, given, bind, Except.bind, pure, Except.pure]

@[simp] theorem callOf_command (s : Settings) (source : String) (workspace : Option String) :
    (callOf s source workspace).command = s.command := rfl

/-! ## The course of a run -/

/-- Nothing has been written for the user, or only blanks. -/
def Mute (o : Output) : Prop := ∀ b ∈ o.stderr, isBlankByte b = true

/-- A run comes to the start of its program. -/
def Reaches (t : Toolchain) (s : Settings) (workspace : Option String) : Prop :=
  ¬ Rootless s workspace ∧ s.command ∉ t.missing

/-- The calls in which programs are started. -/
def callsIn (events : List Event) : List Invocation :=
  events.filterMap fun
    | .spawn i => some i
    | _ => none

/-- How a run goes, as its events and its result. -/
inductive Course (t : Toolchain) (s : Settings) (source : String) (workspace : Option String) :
    List Event × Except Failure Output → Prop
  | rootless (rootless : Rootless s workspace) :
    Course t s source workspace ([], .error (.engine (.configuration .noWorkspace)))
  | unknown (rooted : ¬ Rootless s workspace) (missing : s.command ∈ t.missing) :
    Course t s source workspace ([], .error (.engine (.invocation (.notFound s.command))))
  | unstarted (reaches : Reaches t s workspace) {events : List Event} {f : StartFault}
    (called : callsIn events = [callOf s source workspace])
    (refused : (t.answer (callOf s source workspace)).fault = some f) :
    Course t s source workspace (events, .error (startFailure s.command f))
  | silent (reaches : Reaches t s workspace) {events : List Event}
    (called : callsIn events = [callOf s source workspace])
    (started : (t.answer (callOf s source workspace)).fault = none)
    (failed : (t.answer (callOf s source workspace)).output.code ≠ 0)
    (mute : Mute (t.answer (callOf s source workspace)).output) :
    Course t s source workspace
      (events, .error (.engine (.invocation (.silent s.command (t.answer (callOf s source workspace)).output.code))))
  | ended (reaches : Reaches t s workspace) {events : List Event}
    (called : callsIn events = [callOf s source workspace])
    (started : (t.answer (callOf s source workspace)).fault = none)
    (heard : Mute (t.answer (callOf s source workspace)).output → (t.answer (callOf s source workspace)).output.code = 0) :
    Course t s source workspace (events, .ok (t.answer (callOf s source workspace)).output)

theorem conclude_mute {o : Output} (failed : o.code ≠ 0) (mute : Mute o) (command : String) :
    (conclude command o).2 = .error (.engine (.invocation (.silent command o.code))) := by
  have blank : o.stderr.all isBlankByte = true := List.all_eq_true.mpr mute
  simp [conclude, Output.succeeded, failed, blank]

theorem conclude_heard {o : Output} (heard : Mute o → o.code = 0) (command : String) :
    (conclude command o).2 = .ok o := by
  unfold conclude
  dsimp only
  refine if_neg fun silent => ?_
  rw [Bool.and_eq_true, List.all_eq_true] at silent
  simp [Output.succeeded, heard silent.2] at silent

/-- What can happen in a run. -/
theorem course (t : Toolchain) (s : Settings) (source : String) (workspace : Option String) :
    Course t s source workspace (run t s source workspace) := by
  unfold run begin
  by_cases rootless : Rootless s workspace
  · rw [of_rootless rootless source]
    exact .rootless rootless
  rw [of_rooted rootless source]
  unfold spawn
  by_cases missing : s.command ∈ t.missing
  · simpa [missing] using Course.unknown rootless missing
  have reaches : Reaches t s workspace := ⟨rootless, missing⟩
  cases fault : (t.answer (callOf s source workspace)).fault with
  | some f => simpa [missing, fault] using Course.unstarted reaches (by rfl) fault
  | none =>
    by_cases silent : (t.answer (callOf s source workspace)).output.code ≠ 0 ∧ Mute (t.answer (callOf s source workspace)).output
    · obtain ⟨failed, mute⟩ := silent
      simpa [missing, fault, conclude_mute failed mute] using Course.silent reaches (by rfl) fault failed mute
    · have heard : Mute (t.answer (callOf s source workspace)).output → (t.answer (callOf s source workspace)).output.code = 0 :=
        fun mute => by_contra fun failed => silent ⟨failed, mute⟩
      simpa [missing, fault, conclude_heard heard] using Course.ended reaches (by rfl) fault heard

/-! ## How a run ends -/

/-- The ways in which a run ends, each with its circumstances. -/
structure Endings (t : Toolchain) (s : Settings) (source : String) (workspace : Option String)
    (result : Except Failure Output) : Prop where
  configuration (fault : ConfigurationFault) : result = .error (.engine (.configuration fault)) ↔
    Rootless s workspace ∧ fault = .noWorkspace
  notFound (command : String) : result = .error (.engine (.invocation (.notFound command))) ↔
    ¬ Rootless s workspace ∧ s.command ∈ t.missing ∧ command = s.command
  /-- The system refuses to start the program. -/
  notStarted (command message : String) : result = .error (.engine (.invocation (.notStarted command message))) ↔
    Reaches t s workspace ∧ (t.answer (callOf s source workspace)).fault = some ⟨true, message⟩ ∧ command = s.command
  /-- What else goes wrong with the start is passed on as it is. -/
  runtime (message : String) : result = .error (.runtime message) ↔
    Reaches t s workspace ∧ (t.answer (callOf s source workspace)).fault = some ⟨false, message⟩
  silent (command : String) (status : Int) : result = .error (.engine (.invocation (.silent command status))) ↔
    Reaches t s workspace ∧ (t.answer (callOf s source workspace)).fault = none ∧
      (t.answer (callOf s source workspace)).output.code ≠ 0 ∧ Mute (t.answer (callOf s source workspace)).output ∧
      command = s.command ∧ status = (t.answer (callOf s source workspace)).output.code
  ok (o : Output) : result = .ok o ↔
    Reaches t s workspace ∧ (t.answer (callOf s source workspace)).fault = none ∧
      (Mute (t.answer (callOf s source workspace)).output → (t.answer (callOf s source workspace)).output.code = 0) ∧
      o = (t.answer (callOf s source workspace)).output
  /-- There are no other failures. -/
  total (f : Failure) : result = .error f → (∃ fault, f = .engine (.configuration fault)) ∨
    (∃ fault, f = .engine (.invocation fault)) ∨ ∃ message, f = .runtime message

variable (t : Toolchain) (s : Settings) (source : String) (workspace : Option String)

theorem run_endings : Endings t s source workspace (run t s source workspace).2 := by
  have gone := course t s source workspace
  generalize run t s source workspace = r at gone ⊢
  cases gone with
  | rootless rootless =>
    have short : ¬ Reaches t s workspace := fun reaches => reaches.1 rootless
    constructor <;> simp [rootless, short, eq_comm]
  | unknown rooted missing =>
    have short : ¬ Reaches t s workspace := fun reaches => reaches.2 missing
    constructor <;> simp [rooted, missing, short, eq_comm]
  | @unstarted reaches events f called refused =>
    obtain ⟨bySystem, message⟩ := f
    cases bySystem <;> constructor <;>
      simp [startFailure, reaches.1, reaches.2, reaches, refused, eq_comm, and_comm]
  | silent reaches called started failed mute =>
    constructor <;> simp [reaches.1, reaches.2, reaches, started, failed, mute, eq_comm]
  | ended reaches called started heard =>
    constructor <;> simp [reaches.1, reaches.2, reaches, started, eq_comm]
    · exact fun command status failed mute => absurd (heard mute).symm failed
    · exact fun mute => (heard mute).symm

/-- Without a root that is needed, it does not matter which compilers there are. -/
theorem run_rootless {s : Settings} {workspace : Option String} (rootless : Rootless s workspace) :
    run t s source workspace = ([], .error (.engine (.configuration .noWorkspace))) := by
  simp [run, begin, of_rootless rootless source]

/-- A program is started once if a run reaches it, and not at all otherwise. -/
theorem callsIn_run :
    (Reaches t s workspace → callsIn (run t s source workspace).1 = [callOf s source workspace]) ∧
    (¬ Reaches t s workspace → callsIn (run t s source workspace).1 = []) := by
  have gone := course t s source workspace
  generalize run t s source workspace = r at gone ⊢
  cases gone with
  | rootless rootless => exact ⟨fun reaches => absurd rootless reaches.1, fun _ => rfl⟩
  | unknown rooted missing => exact ⟨fun reaches => absurd missing reaches.2, fun _ => rfl⟩
  | unstarted reaches called refused => exact ⟨fun _ => called, fun fails => absurd reaches fails⟩
  | silent reaches called started failed mute => exact ⟨fun _ => called, fun fails => absurd reaches fails⟩
  | ended reaches called started heard => exact ⟨fun _ => called, fun fails => absurd reaches fails⟩

/-- The directory of a call and the name at its end are the source file. -/
theorem callOf_source :
    (Path.ofString (callOf s source workspace).directory).joined (fileName source) = Path.ofString source :=
  Path.joined_name (Path.plain_ofString source)

/-- A run that has failed is never a clean file. It ends in one of its ways, each in its own
circumstances; without a root that is needed it does not even look for the compiler; the program is
started at most once, for the source file, in the directory of the file and with a flag for each
include path; and a result without anything written for the user is that of a program that has
succeeded. -/
theorem run_exact :
    Endings t s source workspace (run t s source workspace).2 ∧
    (Rootless s workspace → ∀ other : Toolchain,
      run other s source workspace = ([], .error (.engine (.configuration .noWorkspace)))) ∧
    (Reaches t s workspace → callsIn (run t s source workspace).1 = [callOf s source workspace]) ∧
    (¬ Reaches t s workspace → callsIn (run t s source workspace).1 = []) ∧
    (callOf s source workspace).arguments.getLast? = some (fileName source) ∧
    (Path.ofString (callOf s source workspace).directory).joined (fileName source) = Path.ofString source ∧
    ∀ o, (run t s source workspace).2 = .ok o → Mute o → o.code = 0 := by
  have endings := run_endings t s source workspace
  obtain ⟨called, uncalled⟩ := callsIn_run t s source workspace
  refine ⟨endings, fun rootless other => run_rootless other source rootless, called, uncalled, by simp [callOf],
    callOf_source s source workspace, ?_⟩
  intro o ended mute
  obtain ⟨_, _, heard, rfl⟩ := (endings.ok o).mp ended
  exact heard mute

/-- A compiler that crashes without a word gives no result. -/
example : (run { answer := Toolchain.byName [("a.c", { output := ⟨[], [32, 10], 139⟩ })] } {} "/w/a.c" none).2 =
    .error (.engine (.invocation (.silent "gcc" 139))) := by decide

end Compiler

end Diagnosis
