import Diagnosis.Proofs.App.Move
import Diagnosis.Proofs.Engine.Waiting

/-!
# Delivering messages

Letting the engine work and going through the inbox twice is one of the runs, and
leaves nothing in the inbox unless a message could not be dealt with.
-/

namespace Diagnosis

open Engine (trace_after)

namespace App

variable {a : App}

/-! ## Turns of the engine -/

theorem trace_turn (e : Engine) (k : Nat) : ∃ events, (e.turn k).trace = e.trace ++ events := by
  rcases e.turn_works k with ⟨_, ⟨events, grown, _⟩, _⟩ | ⟨_, _, _, _, _, working⟩
  · exact ⟨events, grown⟩
  · obtain ⟨events, grown, _⟩ := working.seen
    exact ⟨events, grown⟩

theorem trace_steps (count : Nat) (e : Engine) : ∃ events, (e.steps count).trace = e.trace ++ events := by
  induction count generalizing e with
  | zero => exact ⟨[], by simp [Engine.steps]⟩
  | succ count ih =>
    obtain ⟨events, grown⟩ := trace_turn e 0
    obtain ⟨more, later⟩ := ih (e.turn 0)
    exact ⟨events ++ more, by rw [Engine.steps, Engine.step_eq_turn, later, grown, List.append_assoc]⟩

theorem advance_self (a : App) : a.advance a.engine = a := by
  simp [advance]

/-- What is published in two goes is posted in the same order. -/
theorem advance_advance {e e' : Engine} (grown : ∃ events, e.trace = a.engine.trace ++ events)
    (later : ∃ events, e'.trace = e.trace ++ events) : (a.advance e).advance e' = a.advance e' := by
  obtain ⟨events, grown⟩ := grown
  obtain ⟨more, later⟩ := later
  simp [advance, later, grown]

theorem advance_steps (count : Nat) (a : App) :
    a.advance (a.engine.steps count) = a.run (List.replicate count (.turned 0)) := by
  induction count generalizing a with
  | zero => exact advance_self a
  | succ count ih =>
    have turned := trace_turn a.engine 0
    have next : (a.after (.turned 0)).engine = a.engine.turn 0 := rfl
    rw [List.replicate_succ, run_cons, ← ih, next, Engine.steps, Engine.step_eq_turn]
    exact (advance_advance turned (trace_steps count _)).symm

/-! ## Messages that wait -/

/-- With messages in front of those in the inbox. -/
def behind (front : List Message) (a : App) : App := { a with inbox := front ++ a.inbox }

theorem advance_behind (front : List Message) (a : App) (e : Engine) :
    (a.behind front).advance e = (a.advance e).behind front := by
  simp [advance, behind]

theorem validatePath_behind (front : List Message) (a : App) (path : String) :
    (a.behind front).validatePath path = ((a.validatePath path).1.behind front, (a.validatePath path).2) := by
  have engine : (a.behind front).engine = a.engine := rfl
  unfold validatePath
  rw [engine]
  split
  · rw [advance_behind, showError, advance_behind]
    rfl
  · rw [advance_behind, showError, advance_behind]
    rfl
  · rw [advance_behind]
  · simp only [advance_behind]
    rfl

/-- Messages that wait in front do not bear on how one is dealt with. -/
theorem receive_behind (front : List Message) (a : App) (m : Message) :
    (a.behind front).receive m = ((a.receive m).1.behind front, (a.receive m).2) := by
  cases m with
  | changed c =>
    cases c with
    | saved path => exact validatePath_behind front a path
    | configured path =>
      have engine (b : App) : (b.behind front).engine = b.engine := rfl
      simp only [receive, engine, advance_behind]
      split <;> rfl
  | published uri ds =>
    have problems : (a.behind front).problems = a.problems := rfl
    simp only [receive, problems]
    split <;> rfl

theorem settle_behind (front : List Message) (a : App) : (a.behind front).settle = a.settle.behind front :=
  advance_behind front a _

/-- Going through messages is a run in which they wait in the inbox, in front of those that come in
meanwhile. -/
theorem receiveAll_run (ms : List Message) (a : App) :
    ∃ moves, (a.receiveAll ms).1 = (a.behind ms).run moves := by
  induction ms generalizing a with
  | nil => exact ⟨[], rfl⟩
  | cons m rest ih =>
    have first : (a.behind (m :: rest)).after .received = (a.receive m).1.behind rest := by
      change ((a.behind rest).receive m).1 = _
      rw [receive_behind]
    unfold receiveAll
    split
    · rename_i b f found
      refine ⟨[.received], ?_⟩
      rw [run_cons, first, found]
      rfl
    · rename_i b found
      obtain ⟨moves, later⟩ := ih b.settle
      rw [found] at first
      refine ⟨.received :: List.replicate (2 * b.engine.queue.length) (.turned 0) ++ moves, ?_⟩
      rw [List.cons_append, run_cons, first, run_append, ← advance_steps]
      rw [later, ← settle_behind]
      rfl

theorem receiveInbox_run (a : App) : ∃ moves, a.receiveInbox.1 = a.run moves := by
  obtain ⟨moves, ran⟩ := receiveAll_run a.inbox { a with inbox := [] }
  refine ⟨moves, ran.trans ?_⟩
  rw [behind, List.append_nil]

/-- Delivering messages is one of the runs. -/
theorem deliver_run (a : App) : ∃ moves, a.deliver.1 = a.run moves := by
  obtain ⟨turns, settled⟩ : ∃ turns, a.settle = a.run turns :=
    ⟨_, advance_steps (2 * a.engine.queue.length) a⟩
  obtain ⟨first, ran⟩ := receiveInbox_run a.settle
  unfold deliver
  split
  · rename_i b f found
    rw [found] at ran
    exact ⟨turns ++ first, by rw [run_append, ← settled, ← ran]⟩
  · rename_i b found
    rw [found] at ran
    obtain ⟨second, again⟩ := receiveInbox_run b
    refine ⟨turns ++ first ++ second, ?_⟩
    rw [run_append, run_append, ← settled, ← ran]
    exact again

/-! ## Nothing is left -/

/-- There are only sets in the inbox. -/
def OnlySets (a : App) : Prop := ∀ m ∈ a.inbox, (set? m).isSome = true

theorem OnlySets.advance (only : OnlySets a) (e : Engine) : OnlySets (a.advance e) := by
  intro m member
  rcases List.mem_append.mp member with old | new
  · exact only m old
  · obtain ⟨event, _, posted⟩ := List.mem_filterMap.mp new
    cases event with
    | notice n =>
      cases n with
      | publish uri ds =>
        cases posted
        rfl
      | _ => cases posted
    | _ => cases posted

theorem OnlySets.validatePath (only : OnlySets a) (path : String) : OnlySets (a.validatePath path).1 := by
  unfold App.validatePath
  split
  · exact (only.advance _).advance _
  · exact (only.advance _).advance _
  · exact only.advance _
  · exact only.advance _

theorem OnlySets.receive (only : OnlySets a) (m : Message) : OnlySets (a.receive m).1 := by
  cases m with
  | changed c =>
    cases c with
    | saved path => exact only.validatePath path
    | configured path =>
      simp only [App.receive]
      split
      · exact (only.advance _).advance _
      · exact (only.advance _).advance _
  | published uri ds =>
    simp only [App.receive]
    split
    · exact only
    · exact only

theorem settle_queue (a : App) : a.settle.engine.queue = [] := Engine.settle_empty a.engine

theorem settle_of_empty (quiet : a.engine.queue = []) : a.settle = a := by
  have still : a.engine.settle = a.engine := by
    rw [Engine.settle, quiet]
    rfl
  rw [settle, still, advance_self]

/-- After going through messages, there are only sets in the inbox, and the engine has nothing to do. -/
theorem receiveAll_onlySets {ms : List Message} {b : App} (only : OnlySets a) (quiet : a.engine.queue = [])
    (dealt : a.receiveAll ms = (b, none)) : OnlySets b ∧ b.engine.queue = [] := by
  induction ms generalizing a with
  | nil =>
    cases dealt
    exact ⟨only, quiet⟩
  | cons m rest ih =>
    have received := only.receive m
    unfold receiveAll at dealt
    split at dealt
    · cases dealt
    · rename_i c found
      rw [found] at received
      exact ih (received.advance _) (settle_queue c) dealt

/-- Going through sets brings nothing in while the engine has nothing to do. -/
theorem receiveAll_sets {ms : List Message} {b : App} (sets : ∀ m ∈ ms, (set? m).isSome = true)
    (quiet : a.engine.queue = []) (dealt : a.receiveAll ms = (b, none)) : b.inbox = a.inbox := by
  induction ms generalizing a with
  | nil =>
    cases dealt
    rfl
  | cons m rest ih =>
    cases m with
    | changed c => cases sets _ List.mem_cons_self
    | published uri ds =>
      unfold receiveAll at dealt
      split at dealt
      · cases dealt
      · rename_i c found
        have still : c.engine = a.engine ∧ c.inbox = a.inbox := by
          simp only [receive] at found
          split at found
          · cases found
          · cases found
            exact ⟨rfl, rfl⟩
        have calm : c.engine.queue = [] := by rw [still.1, quiet]
        rw [settle_of_empty calm] at dealt
        rw [ih (fun m' later => sets m' (List.mem_cons_of_mem _ later)) calm dealt, still.2]

/-- After delivery nothing is left in the inbox, unless a message could not be dealt with. -/
theorem deliver_empties {b : App} (delivered : a.deliver = (b, none)) : b.inbox = [] := by
  unfold deliver at delivered
  split at delivered
  · cases delivered
  · rename_i c found
    have nothing : OnlySets { a.settle with inbox := [] } := fun m member => absurd member List.not_mem_nil
    obtain ⟨only, quiet⟩ := receiveAll_onlySets nothing (settle_queue a) found
    exact receiveAll_sets (a := { c with inbox := [] }) only quiet delivered

end App

end Diagnosis
