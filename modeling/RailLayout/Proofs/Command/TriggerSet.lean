import Mathlib.Data.List.Sort
import RailLayout.Proofs.Command.Rank

/-!
Sets of triggers. What is inserted into a set is in it, with what was there before (`TriggerSet.mem_insertAll`), and a
set that is held in the order of ranks stays so (`TriggerSet.ascending_insertAll`). Two sets in this order with the same
triggers are the same (`TriggerSet.Ascending.eq_of_mem_iff`).
-/

namespace RailLayout

namespace TriggerSet

variable {t u : Trigger} {set other : TriggerSet} {triggers : List Trigger}

theorem mem_insert : u ∈ insert t set ↔ u = t ∨ u ∈ set := by
  induction set with
  | nil => exact List.mem_singleton.trans (or_iff_left List.not_mem_nil).symm
  | cons v rest ih =>
      unfold insert
      split
      · exact List.mem_cons
      · split
        · rename_i hrank
          rw [Trigger.rank_inj hrank, List.mem_cons, ← or_assoc, or_self]
        · rw [List.mem_cons, ih, List.mem_cons, or_left_comm]

theorem mem_insertAll : u ∈ insertAll set triggers ↔ u ∈ triggers ∨ u ∈ set := by
  induction triggers generalizing set with
  | nil => exact (or_iff_right List.not_mem_nil).symm
  | cons t rest ih =>
      rw [insertAll, List.foldl_cons, ← insertAll, ih, mem_insert, List.mem_cons, or_left_comm, or_assoc]

theorem mem_ofList : u ∈ ofList triggers ↔ u ∈ triggers :=
  mem_insertAll.trans (or_iff_left List.not_mem_nil)

/-! ## Order -/

/-- Whether triggers are held in the order of their ranks, each of them once. -/
def Ascending (set : TriggerSet) : Prop := set.Pairwise fun t u => t.rank < u.rank

theorem ascending_insert (h : Ascending set) (t : Trigger) : Ascending (insert t set) := by
  induction set with
  | nil => exact List.pairwise_singleton _ t
  | cons v rest ih =>
      obtain ⟨hfirst, hrest⟩ := List.pairwise_cons.mp h
      unfold insert
      split
      · rename_i hbefore
        refine List.pairwise_cons.mpr ⟨fun u hu => ?_, h⟩
        rcases List.mem_cons.mp hu with rfl | hu
        · exact hbefore
        · exact hbefore.trans (hfirst u hu)
      · rename_i hnot
        split
        · exact h
        · rename_i hne
          refine List.pairwise_cons.mpr ⟨fun u hu => ?_, ih hrest⟩
          rcases mem_insert.mp hu with rfl | hu
          · omega
          · exact hfirst u hu

theorem ascending_insertAll (h : Ascending set) (triggers : List Trigger) : Ascending (insertAll set triggers) := by
  induction triggers generalizing set with
  | nil => exact h
  | cons t rest ih => exact ih (ascending_insert h t)

theorem ascending_ofList (triggers : List Trigger) : Ascending (ofList triggers) :=
  ascending_insertAll .nil triggers

theorem Ascending.eq_of_mem_iff (h : Ascending set) (hother : Ascending other) (hmem : ∀ u, u ∈ set ↔ u ∈ other) :
    set = other := by
  have hirrefl : Std.Irrefl fun t u : Trigger => t.rank < u.rank := ⟨fun t => Nat.lt_irrefl t.rank⟩
  have hasymm : Std.Antisymm fun t u : Trigger => t.rank < u.rank := ⟨fun t u h h' => absurd h (Nat.lt_asymm h')⟩
  exact List.Pairwise.eq_of_mem_iff h hother hmem

end TriggerSet
end RailLayout
