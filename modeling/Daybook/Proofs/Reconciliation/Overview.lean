import Daybook.Proofs.Lists
import Daybook.Proofs.Money.Canonical
import Daybook.Proofs.Reconciliation.Analysis

/-!
Overviews of records. An account that has mismatches counts once, and the largest difference is the largest
magnitude, so both figures depend on the set of the records alone (`Summary.Shows`): their order does not
matter, and with more records neither figure gets smaller (`Summary.Shows.atMost`). A store drops no record
(`Memory.Lengthens.serve`), so the figures of its overviews never fall (`Summary.overviews_grow`).
-/

namespace Daybook

theorem Decimal.lt_iff (a b : Decimal) : a.lt b = true ↔ a.value < b.value := by
  rw [lt, decide_eq_true_iff, value, value, div_lt_div_iff₀ (tens_cast_pos _) (tens_cast_pos _)]
  constructor
  · intro h
    exact_mod_cast h
  · intro h
    exact_mod_cast h

namespace Summary

variable {s s' : Summary} {records records' : List Reconciliation} {limit limit' : Nat}
  {currency currency' : Currency}

/-! ### The largest difference -/

theorem larger_cases (a b : Money) :
    b.value ≤ a.value ∧ larger a b = a ∨ a.value ≤ b.value ∧ larger a b = b := by
  rw [larger]
  split_ifs with hless
  · exact Or.inl ⟨((Decimal.lt_iff _ _).1 hless).le, rfl⟩
  · exact Or.inr ⟨not_lt.1 fun h => hless ((Decimal.lt_iff _ _).2 h), rfl⟩

/-- The largest of some amounts is one of them, and none of them is larger. -/
theorem foldl_larger (m : Money) (ms : List Money) :
    ms.foldl larger m ∈ m :: ms ∧ ∀ a ∈ m :: ms, a.value ≤ (ms.foldl larger m).value := by
  induction ms generalizing m with
  | nil =>
      refine ⟨List.mem_cons_self, fun a ha => ?_⟩
      rw [List.mem_singleton.1 ha]
      rfl
  | cons b ms ih =>
      obtain ⟨hmem, hbound⟩ := ih (larger m b)
      obtain ⟨hlarger, hrest⟩ := List.forall_mem_cons.1 hbound
      rw [List.foldl_cons]
      rcases larger_cases m b with ⟨hle, heq⟩ | ⟨hle, heq⟩
      · rw [heq] at hmem hlarger hrest ⊢
        refine ⟨?_, ?_⟩
        · rcases List.mem_cons.1 hmem with hm | hms
          · exact List.mem_cons.2 (Or.inl hm)
          · exact List.mem_cons_of_mem _ (List.mem_cons_of_mem _ hms)
        · simp only [List.forall_mem_cons]
          exact ⟨hlarger, hle.trans hlarger, hrest⟩
      · rw [heq] at hmem hlarger hrest ⊢
        refine ⟨List.mem_cons_of_mem _ hmem, ?_⟩
        simp only [List.forall_mem_cons]
        exact ⟨hle.trans hlarger, hlarger, hrest⟩

/-- The largest difference is zero, or the magnitude of a difference that is not smaller than any. -/
theorem largest_cases (records : List Reconciliation) (currency : Currency) :
    records = [] ∧ largest records currency = .zero currency ∨
    (∃ r ∈ records, largest records currency = r.difference.abs) ∧
      ∀ r ∈ records, r.difference.abs.value ≤ (largest records currency).value := by
  cases records with
  | nil => exact Or.inl ⟨rfl, rfl⟩
  | cons r records =>
      obtain ⟨hmem, hbound⟩ := foldl_larger r.difference.abs (records.map fun r => r.difference.abs)
      rw [← List.map_cons (f := fun r : Reconciliation => r.difference.abs)] at hmem hbound
      obtain ⟨r', hr', hlargest⟩ := List.mem_map.1 hmem
      exact Or.inr ⟨⟨r', hr', hlargest.symm⟩, fun r'' hr'' => hbound _ (List.mem_map_of_mem hr'')⟩

theorem plain_largest (records : List Reconciliation) (currency : Currency) :
    (largest records currency).amount.Plain := by
  rcases largest_cases records currency with ⟨-, hzero⟩ | ⟨⟨r, -, hlargest⟩, -⟩
  · rw [hzero]
    exact Money.plain_zero currency
  · rw [hlargest]
    exact r.difference.plain_abs

/-! ### What an overview shows -/

/-- An overview is right about the records that it is made of. -/
structure Shows (s : Summary) (records : List Reconciliation) (limit : Nat) (currency : Currency) :
    Prop where
  /-- It counts the accounts that have a mismatch, each of them once. -/
  mismatched : ∃ accounts : Finset AccountId, s.accountsWithMismatch = accounts.card ∧
    ∀ id, id ∈ accounts ↔ ∃ r ∈ records, r.account = id ∧ r.status = .mismatch
  bound : ∀ r ∈ records, |r.difference.value| ≤ s.largestDifference.value
  attained : records ≠ [] → ∃ r ∈ records, s.largestDifference.value = |r.difference.value| ∧
    s.largestDifference.currency = r.difference.currency
  none : records = [] → s.largestDifference.value = 0 ∧ s.largestDifference.currency = currency
  recent : s.recent <+: records
  length : s.recent.length = min limit records.length

/-- Neither figure is above that of the other overview. -/
structure AtMost (s s' : Summary) : Prop where
  mismatched : s.accountsWithMismatch ≤ s'.accountsWithMismatch
  largest : s.largestDifference.value ≤ s'.largestDifference.value

theorem shows_of (total : Nat) (records : List Reconciliation) (limit : Nat) (currency : Currency) :
    (of total records limit currency).Shows records limit currency where
  mismatched := by
    refine ⟨_, length_eraseDups _, fun id => ?_⟩
    have hmismatch : ∀ r : Reconciliation, (!r.isMatch) = true ↔ r.status = .mismatch := by
      intro r
      rw [Reconciliation.isMatch]
      cases r.status <;> decide
    simp only [List.mem_toFinset, List.mem_map, List.mem_filter, hmismatch]
    constructor
    · rintro ⟨r, ⟨hr, hstatus⟩, rfl⟩
      exact ⟨r, hr, rfl, hstatus⟩
    · rintro ⟨r, hr, rfl, hstatus⟩
      exact ⟨r, ⟨hr, hstatus⟩, rfl⟩
  bound r hr := by
    rcases largest_cases records currency with ⟨rfl, -⟩ | ⟨-, hbound⟩
    · cases hr
    · rw [← Money.value_abs]
      exact hbound r hr
  attained hne := by
    rcases largest_cases records currency with ⟨hnil, -⟩ | ⟨⟨r, hr, hlargest⟩, -⟩
    · exact absurd hnil hne
    · have hsame : (of total records limit currency).largestDifference = r.difference.abs := hlargest
      rw [hsame]
      exact ⟨r, hr, r.difference.value_abs, rfl⟩
  none hnil := by
    subst hnil
    exact ⟨(Money.value_eq_zero_iff _).2 rfl, rfl⟩
  recent := List.take_prefix limit records
  length := List.length_take

theorem Shows.largest_nonneg (h : s.Shows records limit currency) : 0 ≤ s.largestDifference.value := by
  by_cases hnil : records = []
  · exact (h.none hnil).1.ge
  · obtain ⟨r, -, hvalue, -⟩ := h.attained hnil
    rw [hvalue]
    exact abs_nonneg _

/-- **More records do not make a figure smaller.** -/
theorem Shows.atMost (h : s.Shows records limit currency) (h' : s'.Shows records' limit' currency')
    (hmore : records ⊆ records') : s.AtMost s' where
  mismatched := by
    obtain ⟨accounts, hcard, hmem⟩ := h.mismatched
    obtain ⟨accounts', hcard', hmem'⟩ := h'.mismatched
    rw [hcard, hcard']
    refine Finset.card_le_card fun id hid => (hmem' id).2 ?_
    obtain ⟨r, hr, hrest⟩ := (hmem id).1 hid
    exact ⟨r, hmore hr, hrest⟩
  largest := by
    by_cases hnil : records = []
    · rw [(h.none hnil).1]
      exact h'.largest_nonneg
    · obtain ⟨r, hr, hvalue, -⟩ := h.attained hnil
      rw [hvalue]
      exact h'.bound r (hmore hr)

end Summary

/-! ### Overviews of a store -/

namespace Memory

variable {m : Memory}

/-- However a script goes, it drops no record. -/
theorem Lengthens.ending {α : Type} (script : Script MemoryDraft α) (m : Memory) :
    m.Lengthens (script.ending Memory.backend m).2 := by
  induction script generalizing m with
  | done a => exact .refl m
  | emit e next ih => exact ih m
  | call c next ih => exact (Lengthens.answer m c).trans (ih _ _)

theorem Lengthens.serve (requests : List Request) (m : Memory) :
    m.Lengthens (serve Memory.backend requests m).2 := by
  induction requests generalizing m with
  | nil => exact .refl m
  | cons q requests ih => exact (Lengthens.ending q.script m).trans (ih _)

/-- The store gives the overview when it is asked for one, of the records as it shows them. -/
structure Gives (m : Memory) (s : Summary) (limit : Nat) (currency : Currency) : Prop where
  ending : (Reconciliation.summary currency limit).ending Memory.backend m = (.ok s, m)
  shows : ∃ shown, m.answer .allReconciliations = (.ok shown, m) ∧ shown.Perm m.reconciliations ∧
    s.Shows shown limit currency

theorem exists_gives (m : Memory) (limit : Nat) (currency : Currency) : ∃ s, m.Gives s limit currency :=
  ⟨_, (Script.ending_call m.reads.countAccounts).trans (Script.ending_call m.reads.allReconciliations),
    newestFirst m.reconciliations, rfl, List.mergeSort_perm _ _, Summary.shows_of _ _ _ _⟩

/-- The figures of an overview grow with the records of the store. -/
theorem Gives.atMost {m' : Memory} {s s' : Summary} {limit limit' : Nat} {currency currency' : Currency}
    (h : m.Gives s limit currency) (h' : m'.Gives s' limit' currency') (hlonger : m.Lengthens m') :
    s.AtMost s' := by
  obtain ⟨shown, -, hperm, hshows⟩ := h.shows
  obtain ⟨shown', -, hperm', hshows'⟩ := h'.shows
  refine hshows.atMost hshows' fun r hr => ?_
  exact hperm'.mem_iff.2 (hlonger.reconciliations.subset (hperm.mem_iff.1 hr))

end Memory

namespace Summary

/-- **An overview is right about its records, and its figures never fall.** It counts each account that has
a mismatch, shows the largest magnitude of a difference, or zero without records, and begins with the first
records. The order of the records changes neither figure, and more records make neither smaller. So, whatever
is asked of a store, the overviews that it gives later are not below those that it gave before. -/
theorem overviews_grow (total : Nat) (records : List Reconciliation) (limit : Nat) (currency : Currency) :
    let s := of total records limit currency
    s.Shows records limit currency ∧
    (∀ total' records' limit' currency', records.Perm records' →
      let s' := of total' records' limit' currency'
      s'.accountsWithMismatch = s.accountsWithMismatch ∧
        s'.largestDifference.amount = s.largestDifference.amount) ∧
    (∀ total' records' limit' currency', records ⊆ records' →
      s.AtMost (of total' records' limit' currency')) ∧
    ∀ (m : Memory) (requests : List Request) (limit' : Nat) (currency' : Currency),
      let m' := (serve Memory.backend requests m).2
      ∃ now later, m.Gives now limit currency ∧ m'.Gives later limit' currency' ∧ now.AtMost later := by
  intro s
  have hshows : s.Shows records limit currency := shows_of total records limit currency
  refine ⟨hshows, fun total' records' limit' currency' hperm => ?_, fun total' records' limit' currency' h =>
    hshows.atMost (shows_of _ _ _ _) h, fun m requests limit' currency' => ?_⟩
  · intro s'
    have hshows' : s'.Shows records' limit' currency' := shows_of total' records' limit' currency'
    have hle := hshows.atMost hshows' hperm.subset
    have hge := hshows'.atMost hshows hperm.symm.subset
    refine ⟨Nat.le_antisymm hge.mismatched hle.mismatched, ?_⟩
    exact Decimal.eq_of_value (Money.settled _) (Money.settled _) (plain_largest _ _) (plain_largest _ _)
      (le_antisymm hge.largest hle.largest)
  · intro m'
    obtain ⟨now, hnow⟩ := m.exists_gives limit currency
    obtain ⟨later, hlater⟩ := m'.exists_gives limit' currency'
    exact ⟨now, later, hnow, hlater, hnow.atMost hlater (.serve requests m)⟩

/-- A reconciliation of an account that is expected to have nothing and has the smallest amount. -/
def unexpected (n : Nat) : Reconciliation where
  id := ⟨⟨BitVec.ofNat 128 n⟩⟩
  account := Submission.depositAccount.id
  date := .ofNanos n
  expected := .zero .brl
  calculated := .smallest
  difference := Money.smallest.negate
  status := .mismatch
  createdAt := .ofNanos n
  consistent := by decide +kernel

/-- A match, and then two mismatches of one account. -/
theorem overviews_grow_unexpected :
    let first := [Memory.idle 1 (.ofNanos 1)]
    let all := unexpected 3 :: unexpected 2 :: first
    first ⊆ all ∧ (of 1 first 2 .brl).AtMost (of 1 all 2 .brl) ∧
    (of 1 first 2 .brl).accountsWithMismatch = 0 ∧ (of 1 all 2 .brl).accountsWithMismatch = 1 ∧
    all.Perm all.reverse ∧ (of 1 all.reverse 2 .brl).accountsWithMismatch = 1 ∧
    (of 1 all.reverse 2 .brl).largestDifference.amount = Money.smallest.amount := by
  intro first all
  have hmore : first ⊆ all := List.subset_append_right [unexpected 3, unexpected 2] first
  have hperm : all.Perm all.reverse := (List.reverse_perm all).symm
  obtain ⟨-, -, hgrow, -⟩ := overviews_grow 1 first 2 .brl
  obtain ⟨-, hsame, -⟩ := overviews_grow 1 all 2 .brl
  obtain ⟨hcount, hamount⟩ := hsame 1 all.reverse 2 .brl hperm
  refine ⟨hmore, hgrow 1 all 2 .brl hmore, by decide +kernel, by decide +kernel, hperm, ?_, ?_⟩
  · rw [hcount]
    decide +kernel
  · rw [hamount]
    decide +kernel

end Summary
end Daybook
