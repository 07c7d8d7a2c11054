import Mathlib.Data.List.Basic
import Mathlib.Data.List.Nodup
import Diagnosis.Proofs.CommandLine.Opening
import Diagnosis.Proofs.Engine.Outcome

/-!
# Validations that are waited for

From an engine whose validations all wait for their start, nothing but turns and the
output of compilers leads on, in any order. Every validation comes to the ending that
it had to come to at first, whatever the others come to, and what the host is told in
the meantime is what these endings tell it, one after the other.
-/

namespace Diagnosis

namespace Engine

/-! ## What stays -/

/-- The host and the workspace are the same, and so are the compilers. -/
structure Alike (e x : Engine) : Prop where
  host : x.host = e.host
  workspace : x.workspace = e.workspace
  toolchain : x.machine.toolchain = e.machine.toolchain

theorem Alike.refl (e : Engine) : Alike e e := ⟨rfl, rfl, rfl⟩

theorem Alike.trans {e x y : Engine} (first : Alike e x) (second : Alike x y) : Alike e y :=
  ⟨second.host.trans first.host, second.workspace.trans first.workspace, second.toolchain.trans first.toolchain⟩

/-- The runs of compilers come out alike. -/
theorem Alike.run {e x : Engine} (alike : Alike e x) (s : Settings) (source : String) :
    Compiler.run x.machine.toolchain s source x.workspace = Compiler.run e.machine.toolchain s source e.workspace := by
  rw [alike.workspace, alike.toolchain]

/-- The answer of a compiler that has been begun is one of the toolchain. -/
theorem begin_answers {t : Toolchain} {s : Settings} {source : String} {workspace : Option String} {reply : Reply}
    (begun : (Compiler.begin t s source workspace).2 = .ok reply) : ∃ i, t.answer i = reply := by
  unfold Compiler.begin at begun
  cases called : Invocation.of s source workspace with
  | error fault => rw [called] at begun; cases begun
  | ok i =>
    rw [called] at begun
    dsimp only at begun
    unfold Compiler.spawn at begun
    split at begun
    · cases begun
    · dsimp only at begun
      split at begun
      · cases begun
      · cases begun
        exact ⟨i, rfl⟩

/-! ## On the way -/

/-- A turn, or the output of a compiler that comes: what nobody does. -/
def Move.Spontaneous : Move → Prop
  | .turned _ | .released _ => True
  | _ => False

/-- Where the validation of a document can come to from its start, given whether it has been called
off. -/
inductive Reaches (e : Engine) (d : Document) : Bool → Phase → Prop where
  | created {called : Bool} : Reaches e d called .created
  | calledOff : Reaches e d true (.finished .cancelled)
  | compiling {s : Settings} {reply : Reply}
      (ending : e.endingOf d = .ofRun d s (Compiler.conclude s.command reply.output).2)
      (answers : ∃ i, e.machine.toolchain.answer i = reply) (held : reply.held = true) :
      Reaches e d false (.compiling s reply)
  | finished : Reaches e d false (.finished ((e.endingOf d).outcomeAt e.host d))

/-- What the host is told when a validation ends. -/
def endingNotices (e : Engine) (n : Nat) : List Notice :=
  match e.validations[n]? with
  | some v => (e.endingOf v.document).noticesAt e.host v.document
  | none => []

/-- An engine on its way from one whose validations wait for their start. Those that have ended have
told the host their endings, in the order in which they have ended. -/
structure Underway (e x : Engine) (order : List Nat) : Prop where
  registered : Registered x
  alike : Alike e x
  length : x.validations.length = e.validations.length
  stands : ∀ (n : Nat) (v : Validation), x.validations[n]? = some v →
    (∃ w, e.validations[n]? = some w ∧ v.document = w.document ∧ v.cancelled = w.cancelled) ∧
      Reaches e v.document v.cancelled v.phase
  /-- Those that have not started find the settings that they would have found at first. -/
  settings : ∀ (n : Nat) (d : Document), x.validations[n]? = some ⟨d, .created, false⟩ →
    x.session.settings.get? d.uri = e.session.settings.get? d.uri
  once : order.Nodup
  ended : ∀ n, n ∈ order ↔ ∃ v, x.validations[n]? = some v ∧ v.cancelled = false ∧ v.isDone = true
  told : noticesIn x.trace = noticesIn e.trace ++ order.flatMap e.endingNotices

theorem Ready.underway {e : Engine} (ready : Ready e) (registered : Registered e) : Underway e e [] where
  registered := registered
  alike := .refl e
  length := rfl
  stands n v known := by
    refine ⟨⟨v, known, rfl, rfl⟩, ?_⟩
    rw [ready.created n v known]
    exact .created
  settings _ _ _ := rfl
  once := .nil
  ended n := by
    refine ⟨fun member => (nomatch member), fun ⟨v, known, _, done⟩ => ?_⟩
    rw [Validation.isDone, ready.created n v known] at done
    cases done
  told := by simp

section

variable {e x x' : Engine} {order : List Nat} {n : Nat} {d : Document} {p : Phase}

/-- A validation that has not started has the ending before it that it had at first. -/
theorem Underway.endingOf_eq (underway : Underway e x order) (ready : Ready e)
    (known : x.validations[n]? = some ⟨d, .created, false⟩) : x.endingOf d = e.endingOf d := by
  obtain ⟨⟨w, before, document, _⟩, _⟩ := underway.stands n _ known
  change d = w.document at document
  subst document
  obtain ⟨s, provided⟩ := Option.isSome_iff_exists.mp (ready.provided n w before)
  have kept : x.session.settings.get? w.document.uri = some s := (underway.settings n _ known).trans provided
  unfold endingOf
  rw [settingsFor_result, settingsFor_result, kept, provided]
  dsimp only
  rw [underway.alike.run]

theorem Underway.endingNotices_eq (underway : Underway e x order) {v : Validation}
    (known : x.validations[n]? = some v) :
    e.endingNotices n = (e.endingOf v.document).noticesAt e.host v.document := by
  obtain ⟨⟨w, before, document, _⟩, _⟩ := underway.stands n v known
  rw [endingNotices, before, document]

/-- No validation goes on. -/
theorem Underway.of_same (underway : Underway e x order) (registered : Registered x') (alike : Alike x x')
    (validations : x'.validations = x.validations) (settings : x'.session.settings = x.session.settings)
    (untold : ∃ events, x'.trace = x.trace ++ events ∧ noticesIn events = []) : Underway e x' order where
  registered := registered
  alike := underway.alike.trans alike
  length := by rw [validations, underway.length]
  stands := by rw [validations]; exact underway.stands
  settings := by rw [validations, settings]; exact underway.settings
  once := underway.once
  ended := by rw [validations]; exact underway.ended
  told := by
    obtain ⟨events, grown, nothing⟩ := untold
    rw [grown, noticesIn_append, nothing, List.append_nil, underway.told]

/-- A validation goes on, or is found to have been called off. -/
theorem Underway.advance (underway : Underway e x order) {p' : Phase} {called : Bool}
    (known : x.validations[n]? = some ⟨d, p, called⟩) (undone : (⟨d, p, called⟩ : Validation).isDone = false)
    (registered : Registered x') (alike : Alike x x') (validations : x'.validations = (x.setPhase n p').validations)
    (reaches : Reaches e d called p') (started : p' ≠ .created)
    (settings : ∀ (m : Nat) (d' : Document), x.validations[m]? = some ⟨d', .created, false⟩ → n ≠ m →
      x'.session.settings.get? d'.uri = x.session.settings.get? d'.uri)
    {more : List Nat} (which : more = if called = false ∧ (⟨d, p', called⟩ : Validation).isDone = true then [n] else [])
    (told : ∃ events, x'.trace = x.trace ++ events ∧ noticesIn events = more.flatMap e.endingNotices) :
    Underway e x' (order ++ more) := by
  have there {m : Nat} {v : Validation} (found : x'.validations[m]? = some v) :
      (n = m ∧ v = ⟨d, p', called⟩) ∨ n ≠ m ∧ x.validations[m]? = some v := by
    rw [validations, setPhase] at found
    rcases modify_cases found with ⟨rfl, w, old, rfl⟩ | other
    · rw [known, Option.some.injEq] at old
      subst old
      exact .inl ⟨rfl, rfl⟩
    · exact .inr other
  have here : x'.validations[n]? = some ⟨d, p', called⟩ := by
    rw [validations, setPhase, List.getElem?_modify, known]
    simp
  have elsewhere {m : Nat} (other : n ≠ m) : x'.validations[m]? = x.validations[m]? := by
    rw [validations, setPhase, List.getElem?_modify_ne _ _ other]
  have fresh : n ∉ order := by
    intro member
    obtain ⟨v, found, _, done⟩ := (underway.ended n).mp member
    rw [known, Option.some.injEq] at found
    subst found
    rw [undone] at done
    cases done
  refine ⟨registered, underway.alike.trans alike, ?_, ?_, ?_, ?_, ?_, ?_⟩
  · rw [validations, setPhase, List.length_modify, underway.length]
  · intro m v found
    rcases there found with ⟨rfl, rfl⟩ | ⟨_, old⟩
    · exact ⟨(underway.stands n _ known).1, reaches⟩
    · exact underway.stands m v old
  · intro m d' found
    rcases there found with ⟨_, same⟩ | ⟨other, old⟩
    · cases same
      exact absurd rfl started
    · exact (settings m d' old other).trans (underway.settings m d' old)
  · rw [List.nodup_append]
    refine ⟨underway.once, ?_, ?_⟩
    · rw [which]
      split <;> simp
    · rintro a old b new rfl
      rw [which] at new
      split at new
      · rw [List.mem_singleton] at new
        exact fresh (new ▸ old)
      · cases new
  · intro m
    rw [List.mem_append, underway.ended m, which]
    by_cases same : n = m
    · subst same
      rw [here, known]
      simp [undone]
    · rw [elsewhere same]
      have absent : m ∉ if called = false ∧ (⟨d, p', called⟩ : Validation).isDone = true then [n] else [] := by
        split
        · rw [List.mem_singleton]
          exact Ne.symm same
        · exact List.not_mem_nil
      exact ⟨fun either => either.resolve_right absent, .inl⟩
  · obtain ⟨events, grown, notices⟩ := told
    rw [grown, noticesIn_append, underway.told, notices, List.flatMap_append, List.append_assoc]

/-- Of two validations that are under way, each has its own address. -/
theorem Registered.apart (registered : Registered x) {m : Nat} {v w : Validation} (known : x.validations[n]? = some v)
    (found : x.validations[m]? = some w) (undone : v.isDone = false ∧ v.cancelled = false)
    (undone' : w.isDone = false ∧ w.cancelled = false) (other : n ≠ m) : w.document.uri ≠ v.document.uri := by
  intro same
  have first := registered.live v.document.uri n ⟨v, known, rfl, undone⟩
  have second := registered.live v.document.uri m ⟨w, found, same, undone'⟩
  rw [first, Option.some.injEq] at second
  exact other second

theorem Progress.goesOn {errand : Errand} {p' : Phase} {shown : Option (List Diagnostic)}
    (progress : Progress x d errand p p' shown) : p' ≠ p ∧ p' ≠ .created := by
  cases progress <;> simp

/-- A validation that goes on leads on: what its turn makes of it tells what the host sees of it. -/
theorem Underway.worked (underway : Underway e x order) (ready : Ready e)
    {k : Nat} {errand : Errand} {p' : Phase} {shown : Option (List Diagnostic)} (queued : x.queue[k]? = some errand)
    (known : x.validations[errand.number]? = some ⟨d, p, false⟩) (progress : Progress x d errand p p' shown)
    (validations : (x.turn k).validations = (x.setPhase errand.number p').validations) (alike : Alike x (x.turn k)) :
    ∃ more, Underway e (x.turn k) (order ++ more) := by
  have registered := underway.registered.turn k
  have found : (x.turn k).validations[errand.number]? = some ⟨d, p', false⟩ := by
    rw [validations, setPhase, List.getElem?_modify, known]
    simp
  have undone := progress.unfinished false
  have apart (m : Nat) (d' : Document) (waits : x.validations[m]? = some ⟨d', .created, false⟩)
      (other : errand.number ≠ m) : d'.uri ≠ d.uri :=
    underway.registered.apart known waits ⟨undone, rfl⟩ ⟨rfl, rfl⟩ other
  have notices := underway.endingNotices_eq known
  obtain ⟨moves, started⟩ := progress.goesOn
  cases turn_went queued found rfl with
  | rested known' _ =>
    rw [known] at known'
    cases known'
    exact absurd rfl moves
  | waits starts ending begun held waits =>
    have reply := starts.2
    rw [known] at reply
    cases reply
    rw [underway.endingOf_eq ready known] at ending
    obtain ⟨i, answers⟩ := begin_answers begun
    rw [underway.alike.toolchain] at answers
    exact ⟨[], underway.advance known undone registered alike validations (.compiling ending ⟨i, answers⟩ held)
      started (fun m d' there other => waits.settings _ (apart m d' there other)) rfl waits.seen⟩
  | ended starts ends =>
    have phase := starts.2
    rw [known] at phase
    cases phase
    rw [underway.endingOf_eq ready known, underway.alike.host] at validations started
    rw [underway.endingOf_eq ready known] at ends
    refine ⟨[errand.number], underway.advance known undone registered alike validations .finished started
      (fun m d' there other => ends.settings _ (apart m d' there other)) rfl ?_⟩
    rw [List.flatMap_singleton, notices, ← underway.alike.host]
    exact ends.seen
  | answered known' came ends =>
    rw [known] at known'
    cases known'
    have reached := (underway.stands _ _ known).2
    cases reached with
    | compiling ending _ _ =>
      rw [came, ← ending, underway.alike.host] at validations started
      rw [came, ← ending] at ends
      refine ⟨[errand.number], underway.advance known undone registered alike validations .finished started
        (fun m d' there other => ends.settings _ (apart m d' there other)) rfl ?_⟩
      rw [List.flatMap_singleton, notices, ← underway.alike.host]
      exact ends.seen

/-- A turn leads on. -/
theorem Underway.turn (underway : Underway e x order) (ready : Ready e)
    (k : Nat) : ∃ more, Underway e (x.turn k) (order ++ more) := by
  have registered := underway.registered.turn k
  have host := (x.turn_grows k).host
  rcases x.turn_cases k with ⟨_, same⟩ | ⟨errand, x', queued, same, turned⟩
  · exact ⟨[], by rw [same, List.append_nil]; exact underway⟩
  · cases turned with
    | idle =>
      rw [same] at registered ⊢
      refine ⟨[], ?_⟩
      rw [List.append_nil]
      exact underway.of_same registered ⟨rfl, rfl, rfl⟩ rfl rfl ⟨[], by simp, rfl⟩
    | forgotten _ _ _ =>
      rw [same] at registered ⊢
      refine ⟨[], ?_⟩
      rw [List.append_nil]
      exact underway.of_same registered ⟨rfl, rfl, rfl⟩ rfl rfl ⟨[], by simp, rfl⟩
    | @calledOff d p files known unended =>
      rw [same] at registered ⊢
      have undone : (⟨d, p, true⟩ : Validation).isDone = false := by
        cases p with
        | finished o => exact absurd rfl (unended o)
        | _ => rfl
      have kills : noticesIn (files.map .kill) = [] := by simp [noticesIn]
      exact ⟨[], underway.advance known undone registered ⟨rfl, rfl, rfl⟩ rfl .calledOff (by simp)
        (fun _ _ _ _ => rfl) rfl ⟨_, rfl, kills⟩⟩
    | worked known progress _ worked =>
      refine underway.worked ready queued known progress.of_queue ?_ ⟨host, ?_, ?_⟩
      · rw [same, worked.validations]
        rfl
      · rw [same, worked.workspace]
        rfl
      · rw [same, worked.machine]
        rfl

/-- What nobody does leads on. -/
theorem Underway.after (underway : Underway e x order) (ready : Ready e)
    {m : Move} (spontaneous : m.Spontaneous) : ∃ more, Underway e (x.after m) (order ++ more) := by
  cases m with
  | turned k => exact underway.turn ready k
  | released n =>
    refine ⟨[], ?_⟩
    rw [List.append_nil]
    exact underway.of_same (underway.registered.run [.released n]) ⟨rfl, rfl, rfl⟩ rfl rfl
      ⟨[], (List.append_nil _).symm, rfl⟩
  | _ => exact spontaneous.elim

theorem Underway.run (underway : Underway e x order) (ready : Ready e)
    {moves : List Move} (spontaneous : ∀ m ∈ moves, m.Spontaneous) :
    ∃ more, Underway e (x.run moves) (order ++ more) := by
  induction moves generalizing x order with
  | nil => exact ⟨[], by rwa [List.append_nil, run_nil]⟩
  | cons m rest ih =>
    obtain ⟨more, leads⟩ := underway.after ready (spontaneous m List.mem_cons_self)
    obtain ⟨later, leadsOn⟩ := ih leads fun m' later => spontaneous m' (List.mem_cons_of_mem _ later)
    exact ⟨more ++ later, by rwa [← List.append_assoc]⟩

end

/-! ## When all have ended -/

/-- All validations have ended. -/
def AllDone (e : Engine) : Prop := ∀ (n : Nat) (v : Validation), e.validations[n]? = some v → v.isDone = true

/-- The documents whose validations there are, with the endings that these come to from here. -/
def endings (e : Engine) : List (Document × Ending) :=
  e.validations.map fun v => (v.document, e.endingOf v.document)

/-- Of validations that wait for their start none has been called off if and only if each has an
address of its own. -/
theorem Ready.uncalled_iff {e : Engine} (ready : Ready e) (registered : Registered e) :
    (∀ (n : Nat) (v : Validation), e.validations[n]? = some v → v.cancelled = false) ↔
      (e.endings.map (·.1.uri)).Nodup := by
  have address {n : Nat} {v : Validation} (known : e.validations[n]? = some v) :
      (e.endings.map (·.1.uri))[n]? = some v.document.uri := by
    simp [endings, known]
  constructor
  · intro uncalled
    rw [List.nodup_iff_getElem?_ne_getElem?]
    intro i j before inside
    have length : j < e.validations.length := by simpa [endings] using inside
    have first := List.getElem?_eq_getElem (before.trans length)
    have second := List.getElem?_eq_getElem length
    rw [address first, address second, ne_eq, Option.some.injEq]
    have waits {n : Nat} {v : Validation} (known : e.validations[n]? = some v) :
        v.isDone = false ∧ v.cancelled = false := by
      refine ⟨?_, uncalled n v known⟩
      rw [Validation.isDone, ready.created n v known]
    exact fun same => registered.apart first second (waits first) (waits second) (Nat.ne_of_lt before) same.symm
  · intro distinct n v known
    obtain ⟨m, held⟩ := Option.isSome_iff_exists.mp (ready.entered n v known)
    obtain ⟨w, found, same⟩ := registered.entry _ m held
    have inside : n < (e.endings.map (·.1.uri)).length := by
      simpa [endings] using (List.getElem?_eq_some_iff.mp known).1
    have only : n = m := by
      refine (List.getElem?_inj inside distinct).mp ?_
      rw [address known, address found, same]
    subst only
    exact ready.uncalled _ n v held known

/-- All places of a list. -/
theorem filterMap_range {α : Type} (l : List α) : (List.range l.length).filterMap (l[·]?) = l := by
  induction l using List.reverseRecOn with
  | nil => rfl
  | append_singleton l a ih =>
    have before : (List.range l.length).filterMap ((l ++ [a])[·]?) = (List.range l.length).filterMap (l[·]?) :=
      List.filterMap_congr fun n member => List.getElem?_append_left (List.mem_range.mp member)
    rw [List.length_append, List.length_singleton, List.range_succ, List.filterMap_append, before, ih]
    simp

theorem flatMap_endingNotices (e : Engine) (order : List Nat) :
    order.flatMap e.endingNotices = (order.filterMap (e.endings[·]?)).flatMap fun p => p.2.noticesAt e.host p.1 := by
  induction order with
  | nil => rfl
  | cons n rest ih =>
    rw [List.flatMap_cons, ih]
    cases known : e.validations[n]? with
    | none => simp [endingNotices, endings, known]
    | some v => simp [endingNotices, endings, known]

/-- What the host has been told since are the endings of the validations that have ended. -/
theorem Underway.told_ended {e x : Engine} {order : List Nat} (underway : Underway e x order) :
    noticesIn x.trace =
      noticesIn e.trace ++ (order.filterMap (e.endings[·]?)).flatMap fun p => p.2.noticesAt e.host p.1 := by
  rw [underway.told, flatMap_endingNotices]

/-- In the end these are the endings of all validations, if none has been called off. -/
theorem Underway.ended_all {e x : Engine} {order : List Nat} (underway : Underway e x order) (done : AllDone x)
    (uncalled : ∀ (n : Nat) (v : Validation), e.validations[n]? = some v → v.cancelled = false) :
    (order.filterMap (e.endings[·]?)).Perm e.endings := by
  have all : order.Perm (List.range e.endings.length) := by
    rw [List.perm_ext_iff_of_nodup underway.once List.nodup_range]
    intro n
    rw [underway.ended n, List.mem_range, endings, List.length_map, ← underway.length]
    constructor
    · rintro ⟨v, known, _⟩
      exact (List.getElem?_eq_some_iff.mp known).1
    · intro inside
      have known := List.getElem?_eq_getElem inside
      obtain ⟨⟨w, before, _, called⟩, _⟩ := underway.stands n _ known
      exact ⟨_, known, called.trans (uncalled n w before), done n _ known⟩
  exact (all.filterMap _).trans (.of_eq (filterMap_range e.endings))

end Engine

end Diagnosis
