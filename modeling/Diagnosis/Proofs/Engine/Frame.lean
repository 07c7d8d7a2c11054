import Diagnosis.Proofs.Engine.Move

/-!
# What turns leave alone

In a turn a validation goes on, and documents, files and the settings of the user stay
as they are; so they do when validations are called off.
-/

namespace Diagnosis.Engine

/-- The machine and the settings of the user are the same, the same documents are open, and the same
are validated. -/
structure Framed (e e' : Engine) : Prop where
  machine : e'.machine = e.machine
  store : e'.store = e.store
  validations : e'.validations.map (·.document) = e.validations.map (·.document)
  documents : e'.session.documents = e.session.documents

theorem Framed.refl (e : Engine) : Framed e e := ⟨rfl, rfl, rfl, rfl⟩

theorem Framed.trans {e e' e'' : Engine} (first : Framed e e') (second : Framed e' e'') : Framed e e'' where
  machine := second.machine.trans first.machine
  store := second.store.trans first.store
  validations := second.validations.trans first.validations
  documents := second.documents.trans first.documents

theorem modify_documents {validations : List Validation} {f : Validation → Validation}
    (document : ∀ v, (f v).document = v.document) (n : Nat) :
    (validations.modify n f).map (·.document) = validations.map (·.document) := by
  apply List.ext_getElem?
  intro m
  rw [List.getElem?_map, List.getElem?_map, List.getElem?_modify, Option.map_eq_map, Option.map_map]
  refine congrArg (Option.map · _) (funext fun v => ?_)
  by_cases here : n = m
  · simp [here, document]
  · simp [here]

theorem cancel_framed (e : Engine) (n : Nat) : Framed e (e.cancel n) := by
  obtain ⟨queue, asked⟩ := e.cancel_eq n
  rw [asked]
  exact ⟨rfl, rfl, modify_documents (by simp) n, rfl⟩

theorem turn_framed (e : Engine) (k : Nat) : Framed e (e.turn k) := by
  rcases e.turn_cases k with ⟨_, same⟩ | ⟨errand, e', _, same, turned⟩
  · rw [same]
    exact .refl e
  · rw [same]
    cases turned with
    | idle => exact ⟨rfl, rfl, rfl, rfl⟩
    | forgotten _ _ _ => exact ⟨rfl, rfl, rfl, rfl⟩
    | calledOff _ _ => exact ⟨rfl, rfl, modify_documents (by simp) _, rfl⟩
    | worked _ _ _ worked =>
      refine ⟨worked.machine, worked.store, ?_, worked.documents⟩
      rw [worked.validations]
      exact modify_documents (by simp) _

theorem foldl_cancel_framed (ns : List Nat) (e : Engine) :
    Framed e (ns.foldl cancel e) ∧ (ns.foldl cancel e).session = e.session := by
  induction ns generalizing e with
  | nil => exact ⟨.refl e, rfl⟩
  | cons n rest ih =>
    obtain ⟨queue, asked⟩ := e.cancel_eq n
    obtain ⟨frame, session⟩ := ih (e.cancel n)
    exact ⟨(e.cancel_framed n).trans frame, session.trans (by rw [asked])⟩

theorem steps_framed (count : Nat) (e : Engine) : Framed e (e.steps count) := by
  induction count generalizing e with
  | zero => exact .refl e
  | succ count ih =>
    rw [steps, step_eq_turn]
    exact (e.turn_framed 0).trans (ih _)

theorem shutdown_framed (e : Engine) : Framed e e.shutdown := by
  obtain ⟨called, _⟩ := foldl_cancel_framed (e.inflight.map Prod.snd) e
  have stepped := called.trans (steps_framed (2 * ((e.inflight.map Prod.snd).foldl cancel e).queue.length) _)
  exact ⟨stepped.machine, stepped.store, stepped.validations, stepped.documents⟩

end Diagnosis.Engine
