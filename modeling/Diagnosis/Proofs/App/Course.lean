import Diagnosis.Proofs.App.Move
import Diagnosis.Proofs.Engine.Course

/-!
# The course of an application

Whatever happens to an application, its engine opens documents as it reads them and closes none.
-/

namespace Diagnosis.App

open Diagnosis.Engine (Proceeds)

variable {a : App}

theorem validatePath_proceeds (a : App) (path : String) : Proceeds a.engine (a.validatePath path).1.engine := by
  have loaded : Proceeds a.engine (a.engine.load path 0).1 :=
    Proceeds.refl.moved (m := .loaded path 0) trivial
  unfold validatePath
  split <;> rename_i found <;> rw [found] at loaded
  · exact loaded.told rfl
  · exact loaded.told rfl
  · exact loaded
  · rename_i e d
    have home : d.AtHome := Engine.load_atHome (congrArg Prod.snd found)
    exact loaded.moved (m := .opened d) home

theorem validatePaths_proceeds (a : App) (paths : List String) : Proceeds a.engine (a.validatePaths paths).1.engine := by
  induction paths generalizing a with
  | nil => exact .refl
  | cons path rest ih =>
    have first := validatePath_proceeds a path
    unfold validatePaths
    split <;> rename_i found <;> rw [found] at first
    · exact first
    · exact first.trans (ih _)

theorem mount_proceeds (a : App) : Proceeds a.engine a.mount.1.engine := by
  have first := validatePaths_proceeds a a.sources
  unfold mount revalidate
  split <;> rename_i found <;> rw [found] at first
  · exact first
  · split
    · exact first
    · unfold startWatching
      dsimp only
      split
      · exact first
      · exact first

theorem receive_proceeds (a : App) (m : Message) : Proceeds a.engine (a.receive m).1.engine := by
  cases m with
  | published uri ds =>
    simp only [receive]
    split
    · exact .refl
    · exact .refl
  | changed c =>
    cases c with
    | saved path => exact validatePath_proceeds a path
    | configured path =>
      simp only [receive]
      generalize logged : a.advance (a.engine.tell (.log ("Configuration changed: " ++ path))) = b
      have told : Proceeds a.engine b.engine := by
        rw [← logged]
        exact Proceeds.refl.told rfl
      have changed : Proceeds a.engine b.engine.configurationChanged.1 := told.moved (m := .configured) trivial
      split <;> rename_i found <;> rw [found] at changed <;> exact changed

/-- What happens to an application lets its engine go on in this way. -/
theorem move_proceeds (a : App) (m : Move) : Proceeds a.engine (a.after m).engine := by
  cases m with
  | mounted => exact mount_proceeds a
  | unmounted => exact Proceeds.refl.moved (m := .shut) trivial
  | revalidated => exact validatePaths_proceeds a a.sources
  | noticed isDirectory event =>
    have still : (a.notice isDirectory event).1.engine = a.engine := by
      unfold notice
      split
      · rfl
      · split <;> rfl
    rw [App.after, still]
    exact .refl
  | received =>
    rw [App.after, receiveFirst]
    split
    · exact .refl
    · rename_i m rest _
      exact receive_proceeds { a with inbox := rest } m
  | turned k => exact Proceeds.refl.moved (m := .turned k) trivial
  | released n => exact Proceeds.refl.moved (m := .released n) trivial
  | moved machine => exact Proceeds.refl.moved (m := .moved machine) trivial

theorem run_proceeds (a : App) (moves : List Move) : Proceeds a.engine (a.run moves).engine := by
  induction moves generalizing a with
  | nil => exact .refl
  | cons m rest ih => exact (move_proceeds a m).trans (ih (a.after m))

end Diagnosis.App
