import Mathlib.Data.List.Nodup
import Mathlib.Order.Lattice

/-! Items sorted by rank, the highest first, by a stable sort, where items of
one rank come in a fixed order. -/
namespace Semantics

variable {α β : Type*}

section

variable {items : List α} {first second : α}

/-- Of two members of a list one comes first. -/
theorem pair_sublist_or (hFirst : first ∈ items) (hSecond : second ∈ items)
    (hNe : first ≠ second) :
    [first, second].Sublist items ∨ [second, first].Sublist items := by
  obtain ⟨before, after, rfl⟩ := List.append_of_mem hFirst
  rcases List.mem_append.mp hSecond with hBefore | hAfter
  · right
    exact (List.singleton_sublist.mpr hBefore).append
      (List.singleton_sublist.mpr List.mem_cons_self)
  · left
    have hRest : second ∈ after := (List.mem_cons.mp hAfter).resolve_left hNe.symm
    exact ((List.singleton_sublist.mpr hRest).cons_cons first).trans
      (List.sublist_append_right before (first :: after))

/-- Without repetition only one of them does. -/
theorem not_pair_sublist (hNodup : items.Nodup) (h : [first, second].Sublist items) :
    ¬[second, first].Sublist items := by
  induction items with
  | nil => exact absurd h (by simp)
  | cons item items ih =>
      obtain ⟨hItem, hItems⟩ := List.nodup_cons.mp hNodup
      intro hSwapped
      rcases List.sublist_cons_iff.mp h with hRest | ⟨_, hPair, hRest⟩
      · rcases List.sublist_cons_iff.mp hSwapped with hOther | ⟨_, hOther, hSecond⟩
        · exact ih hItems hRest hOther
        · cases hOther
          exact hItem (hRest.subset (by simp))
      · cases hPair
        rcases List.sublist_cons_iff.mp hSwapped with hOther | ⟨_, hOther, hSecond⟩
        · exact hItem (hOther.subset (by simp))
        · cases hOther
          exact hItem (hSecond.subset (by simp))

end

variable [LinearOrder β] {rank : α → β} {fixed : α → α → Prop} {items returned others : List α}

/-- The highest rank first. -/
def byRank (rank : α → β) (items : List α) : List α :=
  items.mergeSort fun first second => decide (rank second ≤ rank first)

/-- By rank, and by the fixed order within a rank. -/
def Precedes (rank : α → β) (fixed : α → α → Prop) (first second : α) : Prop :=
  rank second < rank first ∨ rank first = rank second ∧ fixed first second

/-- Items of one rank come in the fixed order. -/
def TiesFixed (rank : α → β) (fixed : α → α → Prop) (items : List α) : Prop :=
  items.Pairwise fun first second => rank first = rank second → fixed first second

theorem rank_trans (first second third : α) (hFirst : decide (rank second ≤ rank first) = true)
    (hSecond : decide (rank third ≤ rank second) = true) :
    decide (rank third ≤ rank first) = true :=
  decide_eq_true ((of_decide_eq_true hSecond).trans (of_decide_eq_true hFirst))

theorem rank_total (first second : α) :
    (decide (rank second ≤ rank first) || decide (rank first ≤ rank second)) = true := by
  rw [Bool.or_eq_true, decide_eq_true_eq, decide_eq_true_eq]
  exact le_total _ _

/-- Sorting keeps the items. -/
theorem byRank_perm (rank : α → β) (items : List α) : (byRank rank items).Perm items :=
  List.mergeSort_perm items _

/-- Sorted items stand in descending rank. -/
theorem byRank_sorted (rank : α → β) (items : List α) :
    (byRank rank items).Pairwise fun first second => rank second ≤ rank first :=
  (List.pairwise_mergeSort rank_trans rank_total items).imp of_decide_eq_true

/-- A stable sort keeps the fixed order. -/
theorem byRank_precedes (hNodup : items.Nodup) (hTies : TiesFixed rank fixed items) :
    (byRank rank items).Pairwise (Precedes rank fixed) := by
  have hPerm := byRank_perm rank items
  rw [List.pairwise_iff_forall_sublist]
  intro first second hSorted
  have hLe := List.pairwise_iff_forall_sublist.mp (byRank_sorted rank items) hSorted
  rcases hLe.lt_or_eq with hLt | hEq
  · exact .inl hLt
  · refine .inr ⟨hEq.symm, ?_⟩
    have hFirst : first ∈ items := hPerm.subset (hSorted.subset (by simp))
    have hSecond : second ∈ items := hPerm.subset (hSorted.subset (by simp))
    have hNe : first ≠ second := by
      have hSortedNodup := hPerm.nodup_iff.mpr hNodup
      exact List.pairwise_iff_forall_sublist.mp hSortedNodup hSorted
    rcases pair_sublist_or hFirst hSecond hNe with hOrder | hOrder
    · exact List.pairwise_iff_forall_sublist.mp hTies hOrder hEq.symm
    · have hSwapped : [second, first].Sublist (byRank rank items) :=
        List.pair_sublist_mergeSort rank_trans rank_total (decide_eq_true hEq.ge) hOrder
      exact absurd hSwapped (not_pair_sublist (hPerm.nodup_iff.mpr hNodup) hSorted)

/-- Rank and fixed order leave one order of the items. -/
theorem eq_of_precedes (hFixed : ∀ first second, fixed first second → ¬fixed second first)
    (hItems : items.Pairwise (Precedes rank fixed))
    (hOthers : others.Pairwise (Precedes rank fixed)) (hPerm : items.Perm others) :
    items = others := by
  refine List.Perm.eq_of_pairwise ?_ hItems hOthers hPerm
  intro first second _ _ hForth hBack
  exfalso
  rcases hForth with hLt | ⟨hEq, hTie⟩
  · rcases hBack with hGt | ⟨hBackEq, -⟩
    · exact lt_asymm hLt hGt
    · exact hLt.ne hBackEq
  · rcases hBack with hGt | ⟨-, hBackTie⟩
    · exact hGt.ne hEq
    · exact hFixed first second hTie hBackTie

/-- An item that comes to stand above all others stands first, and the others
stay as they were. -/
theorem byRank_raised [DecidableEq α] {item top : α}
    (hFixed : ∀ first second, fixed first second → ¬fixed second first)
    (hBefore : items.Perm (item :: others)) (hNodup : (item :: others).Nodup)
    (hTies : TiesFixed rank fixed items)
    (hAfter : returned.Perm (top :: others)) (hTop : ∀ other ∈ others, rank other < rank top)
    (hTiesAfter : TiesFixed rank fixed returned) :
    byRank rank returned = top :: (byRank rank items).erase item := by
  have hOthers : ((byRank rank items).erase item).Perm others := by
    have hPerm := ((byRank_perm rank items).trans hBefore).erase item
    rwa [List.erase_cons_head] at hPerm
  have hTopNodup : (top :: others).Nodup :=
    List.nodup_cons.mpr ⟨fun hMem => lt_irrefl _ (hTop top hMem), (List.nodup_cons.mp hNodup).2⟩
  refine eq_of_precedes hFixed (byRank_precedes (hAfter.nodup_iff.mpr hTopNodup) hTiesAfter) ?_ ?_
  · refine List.pairwise_cons.mpr ⟨fun other hOther => ?_, ?_⟩
    · exact .inl (hTop other (hOthers.subset hOther))
    · exact (byRank_precedes (hBefore.nodup_iff.mpr hNodup) hTies).sublist List.erase_sublist
  · exact ((byRank_perm rank returned).trans hAfter).trans (hOthers.symm.cons top)

end Semantics
