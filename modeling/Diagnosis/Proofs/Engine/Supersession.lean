import Diagnosis.Proofs.Engine.Registry

/-!
# Supersession

A validation is superseded by a later one of its document, by the closing of its
document, and by the end of the engine. From then on nothing is seen of it but a
compiler that is killed.
-/

namespace Diagnosis.Engine

/-- A move supersedes a validation: it schedules a later one under the same address, closes that
address, or ends the engine. -/
def Supersedes (e : Engine) (m : Move) (n : Nat) : Prop :=
  ∃ v, (e.after m).validations[n]? = some v ∧
    ((∃ k w, n < k ∧ e.validations.length ≤ k ∧ (e.after m).validations[k]? = some w ∧
        w.document.uri = v.document.uri) ∨
      m = .closed v.document.uri ∨ m = .shut)

/-- Whatever errand of a validation has its turn next, nothing is spawned, shown or remembered. -/
def Silenced (e : Engine) (n : Nat) : Prop :=
  ∀ k errand, e.queue[k]? = some errand → errand.number = n → Silent e (e.turn k)

theorem Registered.after {e : Engine} (registered : Registered e) (m : Move) : Registered (e.after m) :=
  registered.run [m]

/-- A validation with a later one under its address has ended or been called off. -/
theorem Registered.outdated {e : Engine} (registered : Registered e) {n k : Nat} {v w : Validation}
    (known : e.validations[n]? = some v) (later : e.validations[k]? = some w)
    (address : w.document.uri = v.document.uri) (order : n < k) : v.Settled := by
  rcases v.settled_or with settled | live
  · exact settled
  · have held := registered.live v.document.uri n ⟨v, known, rfl, live⟩
    have last := registered.latest v.document.uri n held k w later address
    omega

theorem supersedes_settled {e : Engine} (registered : Registered e) {m : Move} {n : Nat}
    (superseded : Supersedes e m n) : ∃ v, (e.after m).validations[n]? = some v ∧ v.Settled := by
  obtain ⟨v, known, ⟨k, w, order, _, later, address⟩ | rfl | rfl⟩ := superseded
  · exact ⟨v, known, (registered.after m).outdated known later address order⟩
  · refine ⟨v, known, ?_⟩
    obtain ⟨queue, closed⟩ := e.closeDocument_eq v.document.uri
    simp only [after, closed] at known
    exact calledOffAt_settled registered v.document.uri known rfl
  · obtain ⟨_, _, all⟩ := shutdown_silent registered
    exact ⟨v, known, all n v known⟩

theorem settled_silenced {e : Engine} {n : Nat} (settled : ∀ v, e.validations[n]? = some v → v.Settled) :
    Silenced e n := by
  intro k errand queued number
  refine (turn_idle fun errand' queued' => ?_).1
  rw [queued, Option.some.injEq] at queued'
  subst queued' number
  exact settled

/-- In every run of an engine, at most one validation of an address is neither ended nor called off,
and the registry has it; and a validation that has been superseded does nothing more, neither in a
turn of its own nor while the engine shuts down. -/
theorem superseded_silent {machine : Machine} {host : Host} {folder : Path} {workspace : Option String} {e : Engine}
    (created : create machine host folder workspace = .ok e) (moves : List Move) :
    (∀ uri m n, (e.run moves).Live uri m → (e.run moves).Live uri n → m = n) ∧
    (∀ uri n, (e.run moves).Live uri n → (e.run moves).inflight.get? uri = some n) ∧
    (∀ before m later n, moves = before ++ m :: later → Supersedes (e.run before) m n →
      Silenced (e.run moves) n) ∧
    Silent (e.run moves) (e.run moves).shutdown := by
  have start := registered_create created
  have registered := start.run moves
  refine ⟨?_, registered.live, ?_, (shutdown_silent registered).1⟩
  · intro uri m n first second
    have held := registered.live uri m first
    rw [registered.live uri n second, Option.some.injEq] at held
    exact held.symm
  · rintro before m later n rfl superseded
    obtain ⟨v, known, settled⟩ := supersedes_settled (start.run before) superseded
    have kept : Keeps ((e.run before).after m) (e.run (before ++ m :: later)) := by
      rw [run_append, run_cons]
      exact ((start.run before).after m).keeps later
    obtain ⟨v', found, ages⟩ := kept n v known
    refine settled_silenced fun w last => ?_
    rw [found, Option.some.injEq] at last
    subst last
    exact ages.settled settled

/-- The document of the small machine is opened, and its compiler is held back. -/
def heldBack : List Move := [.opened (smallDocument 0), .turned 0]

/-- When that document is saved, its first validation has a turn left, and nothing to do in it. -/
theorem superseded_silent_saved :
    ∃ e, create smallMachine .display ⟨"/", ["home"]⟩ none = .ok e ∧
      (e.run (heldBack ++ [.opened (smallDocument 1)])).queue = [.resume 0, .start 1] ∧
      Silenced (e.run (heldBack ++ [.opened (smallDocument 1)])) 0 := by
  have checked : (create smallMachine .display ⟨"/", ["home"]⟩ none).toOption.any (fun e =>
      (e.run (heldBack ++ [.opened (smallDocument 1)])).queue = [.resume 0, .start 1] ∧
      (e.run heldBack).validations.length = 1 ∧
      (e.run (heldBack ++ [.opened (smallDocument 1)])).validations.map (·.document) =
        [smallDocument 0, smallDocument 1]) = true := by
    decide +kernel
  obtain ⟨e, created, holds⟩ := exists_ok_of_any checked
  obtain ⟨queued, length, documents⟩ := of_decide_eq_true holds
  refine ⟨e, created, queued, ?_⟩
  have document (n : Nat) := congrArg (fun ds : List Document => ds[n]?) documents
  have first := document 0
  have second := document 1
  simp only [List.getElem?_map, List.getElem?_cons_zero, List.getElem?_cons_succ, Option.map_eq_some_iff]
    at first second
  obtain ⟨v, known, old⟩ := first
  obtain ⟨w, later, new⟩ := second
  rw [run_concat] at known later
  refine (superseded_silent created _).2.2.1 heldBack (.opened (smallDocument 1)) [] 0 rfl
    ⟨v, known, .inl ⟨1, w, Nat.one_pos, ?_, later, ?_⟩⟩
  · exact Nat.le_of_eq length
  · rw [old, new]
    rfl

end Diagnosis.Engine
