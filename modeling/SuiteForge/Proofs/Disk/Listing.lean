import Mathlib.Data.List.Nodup
import SuiteForge.Proofs.Disk.Entries

/-!
# The names in a directory

On a disk that holds one entry for each location, a directory lists each name once, in the order of
texts.
-/

namespace SuiteForge.Disk

variable {d : Disk} {l : Location}

/-- No location has two entries. -/
def OneEach (d : Disk) : Prop := (d.entries.map Prod.fst).Nodup

instance (d : Disk) : Decidable d.OneEach := by unfold OneEach; infer_instance

/-- Putting an entry replaces the one at its location. -/
theorem OneEach.put (h : d.OneEach) (l : Location) (e : Entry) : (d.put l e).OneEach := by
  unfold OneEach Disk.put at *
  generalize d.entries = entries at *
  induction entries with
  | nil => simp [put.go]
  | cons head rest ih =>
    obtain ⟨place, found⟩ := head
    obtain ⟨hhead, hrest⟩ := List.nodup_cons.mp h
    by_cases hplace : place = l
    · subst hplace
      simpa [put.go] using h
    · rw [put.go, if_neg hplace, List.map_cons, List.nodup_cons]
      refine ⟨fun hmem => ?_, ih hrest⟩
      obtain ⟨x, hx, hxplace⟩ := List.mem_map.mp hmem
      rcases mem_put_go hx with rfl | hx
      · exact hplace hxplace.symm
      · exact hhead (List.mem_map.mpr ⟨x, hx, hxplace⟩)

theorem OneEach.nodup_names (h : d.OneEach) (l : Location) : (d.names l).Nodup := by
  have hperm : (d.names l).Perm ((d.entries.map Prod.fst).filterMap fun k =>
      if k ≠ [] ∧ k.dropLast = l then k.getLast? else none) := by
    rw [List.filterMap_map]
    exact List.mergeSort_perm _ _
  rw [hperm.nodup_iff]
  refine List.Nodup.filterMap ?_ h
  intro k k' name hk hk'
  rw [Option.mem_def, Option.ite_none_right_eq_some] at hk hk'
  obtain ⟨⟨-, rfl⟩, hk⟩ := hk
  obtain ⟨⟨-, hfront⟩, hk'⟩ := hk'
  obtain ⟨front, rfl⟩ := List.getLast?_eq_some_iff.mp hk
  obtain ⟨front', rfl⟩ := List.getLast?_eq_some_iff.mp hk'
  rw [List.dropLast_concat, List.dropLast_concat] at hfront
  rw [hfront]

/-- The names in a directory ascend. -/
theorem OneEach.names_ascend (h : d.OneEach) (l : Location) : (d.names l).Pairwise (· < ·) := by
  have hnotAfter (a b : String) : (!decide (b < a)) = true ↔ a ≤ b := by
    rw [Bool.not_eq_true', decide_eq_false_iff_not, String.not_lt]
  have hsorted : (d.names l).Pairwise fun a b => (!decide (b < a)) = true := by
    refine List.pairwise_mergeSort ?_ ?_ _
    · intro a b c hab hbc
      rw [hnotAfter] at *
      exact String.le_trans hab hbc
    · intro a b
      rw [Bool.or_eq_true, hnotAfter, hnotAfter]
      exact String.le_total a b
  refine (hsorted.and (h.nodup_names l)).imp ?_
  rintro a b ⟨hle, hne⟩
  refine Decidable.of_not_not fun hlt => hne ?_
  exact String.le_antisymm ((hnotAfter a b).mp hle) (String.not_lt.mp hlt)

end SuiteForge.Disk
