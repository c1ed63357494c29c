import Mathlib.Data.List.Perm.Basic
import Mathlib.Data.String.Basic

/-! Lists that are sorted by a text: entries of one text keep their order, and where the texts tell
the entries apart, the order in which these came does not show. -/
namespace CommandGen.Text

open scoped List

variable {α : Type} {l l' : List α} (key : α → String)

def sortBy (l : List α) : List α := l.mergeSort fun a b => decide (key a ≤ key b)

theorem sortBy_perm (l : List α) : (sortBy key l).Perm l := List.mergeSort_perm _ _

theorem decide_le_trans (a b c : α) (hab : decide (key a ≤ key b) = true)
    (hbc : decide (key b ≤ key c) = true) :
    decide (key a ≤ key c) = true :=
  decide_eq_true (String.le_trans (of_decide_eq_true hab) (of_decide_eq_true hbc))

theorem decide_le_total (a b : α) : (decide (key a ≤ key b) || decide (key b ≤ key a)) = true := by
  simpa using String.le_total (key a) (key b)

theorem pairwise_sortBy (l : List α) : (sortBy key l).Pairwise (key · ≤ key ·) :=
  (List.pairwise_mergeSort (decide_le_trans key) (decide_le_total key) l).imp of_decide_eq_true

theorem filter_sortBy (l : List α) (k : String) :
    (sortBy key l).filter (key · = k) = l.filter (key · = k) := by
  have hequal : (l.filter (key · = k)).Pairwise fun a b => decide (key a ≤ key b) = true := by
    refine List.pairwise_of_forall_mem_list fun a ha b hb => ?_
    have ha : key a = k := by simpa using (List.mem_filter.mp ha).2
    have hb : key b = k := by simpa using (List.mem_filter.mp hb).2
    simp [ha, hb]
  have hsub : l.filter (key · = k) <+ sortBy key l :=
    List.sublist_mergeSort (decide_le_trans key) (decide_le_total key) hequal List.filter_sublist
  have hinside := hsub.filter (key · = k)
  simp only [List.filter_filter, Bool.and_self] at hinside
  exact (hinside.eq_of_length ((sortBy_perm key l).filter _).length_eq.symm).symm

theorem sortBy_eq_of_perm (h : l.Perm l') (hkey : ∀ a ∈ l, ∀ b ∈ l, key a = key b → a = b) :
    sortBy key l = sortBy key l' := by
  have hsame : (sortBy key l).Perm (sortBy key l') :=
    (sortBy_perm key l).trans (h.trans (sortBy_perm key l').symm)
  refine hsame.eq_of_pairwise (fun a b ha hb hab hba => ?_) (pairwise_sortBy key l)
    (pairwise_sortBy key l')
  have ha : a ∈ l := (sortBy_perm key l).mem_iff.mp ha
  have hb : b ∈ l := h.mem_iff.mpr ((sortBy_perm key l').mem_iff.mp hb)
  exact hkey a ha b hb (String.le_antisymm hab hba)

end CommandGen.Text
