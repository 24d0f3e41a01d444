import Daybook.Proofs.Booking.Balances
import Daybook.Proofs.Money.Sum
import Daybook.Proofs.Stores.Writes

/-!
Records and their columns. A reconciliation compares the expected balance, which it has checked to be
in range, with the sum of the entries, which nobody bounds. The record that it keeps has room in its
columns exactly when the balance and what is missing from it are in range, too
(`Reconciliation.kept_insertable_iff`); where they are not, a store in memory keeps a record that a
database would refuse (`Reconciliation.kept_out_of_range`).
-/

namespace Daybook

namespace Memory

variable {m : Memory} {e : Entry}

theorem mem_of_mem_entriesOf {id : AccountId} (h : e ∈ m.entriesOf id) : e ∈ m.entries :=
  List.mem_of_mem_filter ((List.mergeSort_perm _ _).mem_iff.1 h)

/-- Every entry that was booked fits the books. -/
theorem Reached.isStorable {allowed : Settings → Prop} (hm : m.Reached allowed) (he : e ∈ m.entries) :
    e.amount.isStorable = true := by
  obtain ⟨q, -, o, p, hbooks, hmem⟩ := hm.exists_books he
  exact hbooks.isStorable hmem

/-- If the entries of an account add up, they add up to its balance, as long as they are not too many
for any of the sums on the way. -/
theorem Reached.total_eq_balance {allowed : Settings → Prop} (hm : m.Reached allowed) {id : AccountId}
    {currency : Currency} {calculated : Money}
    (htotal : Entry.total currency (m.entriesOf id) = .ok calculated)
    (hfew : ((m.entriesOf id).length + 1) * tens 19 ≤ twos 96) :
    ∃ n : Int, calculated.Counts currency n ∧ n.natAbs ≤ (m.entriesOf id).length * tens 19 ∧
      calculated.value = m.balance id := by
  have hcurrency := Money.currency_of_sum htotal
  have hamounts : ∀ a ∈ (m.entriesOf id).map (·.amount),
      a.currency = currency ∧ a.isStorable = true := by
    intro a ha
    obtain ⟨e, he, rfl⟩ := List.mem_map.1 ha
    exact ⟨hcurrency _ ha, hm.isStorable (mem_of_mem_entriesOf he)⟩
  rw [Nat.add_mul] at hfew
  obtain ⟨s, hs, hcounts, hbound, hvalue⟩ :=
    Money.sum_exact hamounts (by rw [List.length_map]; omega)
  rw [Entry.total, hs] at htotal
  cases htotal
  rw [List.length_map] at hbound
  refine ⟨_, hcounts, hbound, ?_⟩
  rw [hvalue, balance, Entry.exactTotal, List.map_map]
  rfl

end Memory

namespace Reconciliation

variable {stamp : Stamp} {currency : Currency} {account : AccountId} {expected : Decimal}
  {r record : Reconciliation} {m : Memory}

theorem keep_cases (m : Memory) (r : Reconciliation) :
    (m.accounts.contains r.account = true ∧ (∀ r' ∈ m.reconciliations, r'.id ≠ r.id) ∧
      (keep r).ending Memory.backend m =
        (.ok r, { m with reconciliations := m.reconciliations ++ [r] })) ∨
    ((m.accounts.contains r.account = true → ∃ r' ∈ m.reconciliations, r'.id = r.id) ∧
      ∃ cause, (keep r).ending Memory.backend m = (.error (.store cause), m)) := by
  rcases m.answer_insertReconciliation r with ⟨hpresent, hnew, hanswer⟩ | ⟨hknown, cause, hanswer⟩
  · exact Or.inl ⟨hpresent, hnew, Script.ending_call (Memory.backend_answers hanswer)⟩
  · exact Or.inr ⟨hknown, cause, Script.ending_call (Memory.backend_answers hanswer)⟩

theorem keep_eq_ok (h : ((keep r).ending Memory.backend m).1 = .ok record) :
    record = r ∧ ((keep r).ending Memory.backend m).2 =
      { m with reconciliations := m.reconciliations ++ [r] } := by
  rcases keep_cases m r with ⟨-, -, hending⟩ | ⟨-, cause, hending⟩
  · rw [hending] at h ⊢
    cases h
    exact ⟨rfl, rfl⟩
  · rw [hending] at h
    cases h

/-- What is known of a record that was kept. -/
theorem reconcile_eq_ok
    (h : ((reconcile stamp currency account expected).ending Memory.backend m).1 = .ok record) :
    record.expected = Money.new expected currency ∧ record.expected.isStorable = true ∧
    Entry.total currency (m.entriesOf account) = .ok record.calculated ∧
    record.expected.sub record.calculated = .ok record.difference ∧
    ((reconcile stamp currency account expected).ending Memory.backend m).2 =
      { m with reconciliations := m.reconciliations ++ [record] } := by
  rcases leads m stamp currency account expected with
    ⟨e, hleads⟩ | ⟨calculated, r, hstorable, -, htotal, hcompare, hleads⟩
  · rw [hleads m.reads] at h
    cases h
  rw [hleads m.reads] at h ⊢
  obtain ⟨rfl, hkept⟩ := keep_eq_ok h
  obtain ⟨-, -, hexpected, rfl, hdifference⟩ := of_compare hcompare
  rw [hexpected]
  exact ⟨rfl, hstorable, htotal, hdifference, hkept⟩

/-- The columns take a record exactly when its figures are in range. -/
theorem insertable_iff (r : Reconciliation) :
    (Database.RecordRow.ofReconciliation r).Insertable ↔ r.Storable := by
  constructor
  · intro h
    exact ⟨decide_eq_true h.expected, decide_eq_true h.calculated, decide_eq_true h.difference⟩
  · exact Database.RecordRow.insertable_ofReconciliation

/-- **Which records have room in their columns.** The record that a reconciliation keeps has an
expected balance in range. Whether the columns take it depends on the other two figures. These are the
balance of the account and what is missing from it, exactly, up to 7 922 816 250 entries. -/
theorem kept_insertable_iff (hm : m.Reached fun _ => True) (stamp : Stamp) (currency : Currency)
    (account : AccountId) (expected : Decimal)
    (hresult : ((reconcile stamp currency account expected).ending Memory.backend m).1 = .ok record) :
    record ∈ ((reconcile stamp currency account expected).ending Memory.backend m).2.reconciliations ∧
    record.expected = Money.new expected currency ∧ record.expected.isStorable = true ∧
    ((Database.RecordRow.ofReconciliation record).Insertable ↔ record.Storable) ∧
    (record.Storable ↔ |record.calculated.value| < 10 ^ 15 ∧ |record.difference.value| < 10 ^ 15) ∧
    (((m.entriesOf account).length + 1) * tens 19 ≤ twos 96 →
      record.calculated.value = m.balance account ∧
        record.difference.value = record.expected.value - m.balance account) := by
  obtain ⟨hexpected, hstorable, htotal, hdifference, hkept⟩ := reconcile_eq_ok hresult
  refine ⟨?_, hexpected, hstorable, insertable_iff record, ?_, fun hfew => ?_⟩
  · rw [hkept]
    exact List.mem_append_right _ List.mem_cons_self
  · rw [← Money.isStorable_iff, ← Money.isStorable_iff]
    exact ⟨fun h => ⟨h.calculated, h.difference⟩, fun h => ⟨hstorable, h.1, h.2⟩⟩
  · obtain ⟨n, hcounts, hbound, hbalance⟩ := hm.total_eq_balance htotal hfew
    obtain ⟨hasserted, hsmall⟩ := Money.counts_of_isStorable hstorable
    have hroom : (record.expected.units - n).natAbs < twos 96 := by
      rw [Nat.add_mul] at hfew
      omega
    refine ⟨hbalance, ?_⟩
    rw [← hbalance]
    exact hasserted.value_sub hcounts hroom hdifference

theorem kept_insertable_onceDeposited :
    Memory.onceDeposited.Reached (fun _ => True) ∧
    ∃ record, ((reconcile ⟨⟨50⟩, .ofNanos 50⟩ .brl ⟨⟨1⟩⟩ .zero).ending Memory.backend
        Memory.onceDeposited).1 = .ok record ∧
      record.difference.value = record.expected.value - Memory.onceDeposited.balance ⟨⟨1⟩⟩ := by
  have hreached : Memory.onceDeposited.Reached fun _ => True := Memory.reached_onceDeposited trivial
  have hok : ((reconcile ⟨⟨50⟩, .ofNanos 50⟩ .brl ⟨⟨1⟩⟩ .zero).ending Memory.backend
      Memory.onceDeposited).1.isOk = true := by decide +kernel
  cases hresult : ((reconcile ⟨⟨50⟩, .ofNanos 50⟩ .brl ⟨⟨1⟩⟩ .zero).ending Memory.backend
      Memory.onceDeposited).1 with
  | error e => rw [hresult] at hok; cases hok
  | ok record =>
      obtain ⟨-, -, -, -, -, hfigures⟩ := kept_insertable_iff hreached _ _ _ _ hresult
      exact ⟨hreached, record, rfl, (hfigures (by decide +kernel)).2⟩

/-- The greatest whole amount that fits the books. -/
def hoard : Decimal :=
  (Decimal.ofNat? 999999999999999).getD .zero

/-- The store after a deposit of that much. -/
def hoarding : Memory :=
  ((Submission.counted (.deposit "R-1" ⟨⟨1⟩⟩ hoard) 10).submit [] Memory.opened).2

/-- The reconciliation of an account that holds as much as it is expected to owe. -/
def reversed : Except Error Reconciliation :=
  ((reconcile ⟨⟨50⟩, .ofNanos 50⟩ .brl ⟨⟨1⟩⟩ hoard.neg).ending Memory.backend hoarding).1

/-- A record can be kept that has no room in its columns. -/
theorem kept_out_of_range :
    hoarding.Reached (fun _ => True) ∧ ∃ record, reversed = .ok record ∧
      record.expected.isStorable = true ∧ record.calculated.isStorable = true ∧
      record.difference.isStorable = false ∧
      ¬ (Database.RecordRow.ofReconciliation record).Insertable := by
  refine ⟨.submit Memory.reached_opened _ trivial rfl [], ?_⟩
  have hfigures : (reversed.toOption.map fun r =>
      (r.expected.isStorable, r.calculated.isStorable, r.difference.isStorable)) =
        some (true, true, false) := by decide +kernel
  cases hresult : reversed with
  | error e => rw [hresult] at hfigures; cases hfigures
  | ok record =>
      rw [hresult] at hfigures
      obtain ⟨hexpected, hrest⟩ := Prod.mk.inj (Option.some.inj hfigures)
      obtain ⟨hcalculated, hdifference⟩ := Prod.mk.inj hrest
      refine ⟨record, rfl, hexpected, hcalculated, hdifference, fun h => ?_⟩
      rw [((insertable_iff record).1 h).difference] at hdifference
      cases hdifference

end Reconciliation
end Daybook
