import Mathlib.Data.Finset.Card
import Mathlib.Data.List.Sort

/-!
Lists that are sorted, and lists in which members repeat. Sorting turns a list round that was sorted the
other way, unless members are alike (`mergeSort_eq_reverse`), and keeps the order of those that are
(`filter_mergeSort`). What is left of a list without its repetitions is as long as the set of its members is
large (`length_eraseDups`).
-/

namespace Daybook

/-- What is sorted, without two that are alike, is turned round by sorting it the other way. -/
theorem mergeSort_eq_reverse {α : Type} {le : α → α → Bool} {l : List α}
    (htrans : ∀ a b c, le a b = true → le b c = true → le a c = true)
    (htotal : ∀ a b, (le a b || le b a) = true) (hsorted : l.Pairwise fun a b => le b a = true)
    (hanti : ∀ a b, a ∈ l → b ∈ l → le a b = true → le b a = true → a = b) :
    l.mergeSort le = l.reverse := by
  have hperm := List.mergeSort_perm l le
  refine List.Perm.eq_of_pairwise (fun a b ha hb => ?_) (List.pairwise_mergeSort htrans htotal l)
    (List.pairwise_reverse.2 hsorted) (hperm.trans (List.reverse_perm l).symm)
  exact hanti a b (hperm.mem_iff.1 ha) (List.mem_reverse.1 hb)

/-- What is alike keeps its order when a list is sorted. -/
theorem filter_mergeSort {α : Type} {le : α → α → Bool} {p : α → Bool} (l : List α)
    (htrans : ∀ a b c, le a b = true → le b c = true → le a c = true)
    (htotal : ∀ a b, (le a b || le b a) = true)
    (halike : ∀ a b, p a = true → p b = true → le a b = true) :
    (l.mergeSort le).filter p = l.filter p := by
  have hsorted : (l.filter p).Pairwise fun a b => le a b = true :=
    List.pairwise_of_forall_mem_list fun a ha b hb =>
      halike a b (List.mem_filter.1 ha).2 (List.mem_filter.1 hb).2
  have hkept : (l.filter p).Sublist (l.mergeSort le) :=
    List.sublist_mergeSort htrans htotal hsorted List.filter_sublist
  have hsame := hkept.filter p
  simp only [List.filter_filter, Bool.and_self] at hsame
  exact (hsame.eq_of_length ((List.mergeSort_perm _ _).filter _).length_eq.symm).symm

/-- A list that reads the same from both ends repeats its first member, if it has two. -/
theorem length_le_one_of_reverse_eq {α : Type} {l : List α} (hnodup : l.Nodup) (h : l.reverse = l) :
    l.length ≤ 1 := by
  cases l with
  | nil => exact Nat.zero_le 1
  | cons a l =>
      cases l with
      | nil => exact Nat.le_refl 1
      | cons b l =>
          have hlast : (b :: l).getLast? = some a := by
            have hhead := congrArg List.head? h
            rwa [List.head?_reverse, List.getLast?_cons_cons] at hhead
          exact absurd (List.mem_of_getLast? hlast) (List.nodup_cons.1 hnodup).1

theorem length_eraseDups {α : Type} [DecidableEq α] :
    ∀ as : List α, as.eraseDups.length = as.toFinset.card
  | [] => rfl
  | a :: as => by
      have hshort : (as.filter fun b => !b == a).length < as.length + 1 :=
        Nat.lt_succ_of_le (List.length_filter_le _ _)
      have hothers : (as.filter fun b => !b == a).toFinset = (insert a as.toFinset).erase a := by
        ext b
        simp [and_comm]
      rw [List.eraseDups_cons, List.length_cons, length_eraseDups, hothers, List.toFinset_cons,
        Finset.card_erase_add_one (Finset.mem_insert_self a _)]
termination_by as => as.length

end Daybook
