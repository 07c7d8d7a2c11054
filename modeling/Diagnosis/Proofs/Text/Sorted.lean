import Diagnosis.Text.Sorted

/-!
# Sorted texts are determined by what they are

A sorted list of texts ascends, so that it has each text once, and two of them with
the same texts are the same list.
-/

namespace Diagnosis.Text

theorem pairwise_insertSorted {s : String} {ss : List String} (ascends : ss.Pairwise (· < ·)) :
    (insertSorted s ss).Pairwise (· < ·) := by
  induction ss with
  | nil => exact List.pairwise_singleton _ s
  | cons t rest ih =>
    obtain ⟨below, ordered⟩ := List.pairwise_cons.mp ascends
    unfold insertSorted
    split
    · exact ascends
    · rename_i other
      split
      · rename_i less
        refine List.pairwise_cons.mpr ⟨fun u member => ?_, ascends⟩
        rcases List.mem_cons.mp member with rfl | later
        · exact less
        · exact String.lt_trans less (below u later)
      · rename_i unless_
        refine List.pairwise_cons.mpr ⟨fun u member => ?_, ih ordered⟩
        rcases mem_insertSorted.mp member with rfl | later
        · refine Decidable.of_not_not fun above => other ?_
          exact String.le_antisymm (String.not_lt.mp above) (String.not_lt.mp unless_)
        · exact below u later

/-- A sorted list ascends. -/
theorem pairwise_sorted (ss : List String) : (sorted ss).Pairwise (· < ·) := by
  induction ss with
  | nil => exact .nil
  | cons s rest ih => exact pairwise_insertSorted ih

theorem nodup_of_ascends {ss : List String} (ascends : ss.Pairwise (· < ·)) : ss.Nodup := by
  refine ascends.imp fun {a b} less same => ?_
  rw [same] at less
  exact String.lt_irrefl b less

/-- Two lists that ascend and have the same texts are the same. -/
theorem eq_of_ascends {ss ts : List String} (ascends : ss.Pairwise (· < ·)) (ascendsToo : ts.Pairwise (· < ·))
    (same : ∀ s, s ∈ ss ↔ s ∈ ts) : ss = ts :=
  List.Perm.eq_of_pairwise (fun _ _ _ _ less more => absurd more (String.lt_asymm less)) ascends ascendsToo
    ((List.perm_ext_iff_of_nodup (nodup_of_ascends ascends) (nodup_of_ascends ascendsToo)).mpr same)

/-- Sorting does not see in which order texts come, nor how often. -/
theorem sorted_congr {ss ts : List String} (same : ∀ s, s ∈ ss ↔ s ∈ ts) : sorted ss = sorted ts :=
  eq_of_ascends (pairwise_sorted ss) (pairwise_sorted ts) fun s => by rw [mem_sorted, mem_sorted, same]

end Diagnosis.Text
