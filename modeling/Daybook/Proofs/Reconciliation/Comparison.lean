import Daybook.Proofs.Entry.Total
import Daybook.Proofs.Money.Arithmetic
import Daybook.Proofs.Money.Rounding
import Daybook.Proofs.Reconciliation.Consistency
import Daybook.Proofs.Stores.Records

/-!
What a reconciliation comes to, in a store that was reached in one currency. The range of the expected
balance is looked at first, and then the account. What remains is a comparison with the exact balance
of the account, which cannot fail, and the record of it is all that the store gets
(`Reconciliation.reconcile_compares`).
-/

namespace Daybook.Reconciliation

variable {m : Memory} {stamp : Stamp} {currency : Currency} {account : AccountId} {expected : Decimal}

/-- The record sets the rounded expected balance against the balance of the account. -/
structure Compares (m : Memory) (stamp : Stamp) (currency : Currency) (account : AccountId)
    (expected : Decimal) (r : Reconciliation) : Prop where
  stamp_eq : r.stamp = stamp
  account_eq : r.account = account
  expected_eq : r.expected = Money.new expected currency
  /-- A request for the current balance is answered with it, at any moment. -/
  calculated : ∀ now, ((Balance.current now currency account).ending Memory.backend m).1 =
    .ok ⟨account, r.calculated, (m.entriesOf account).length, now⟩
  balance : r.calculated.value = m.balance account
  difference : r.difference.value = r.expected.value - m.balance account
  status : r.status = .matching ↔ r.expected.value = m.balance account

/-- Nothing but the store can refuse the record of an account that is there. -/
theorem exists_compares (hm : m.Reached fun s => s.currency = currency)
    (hfew : (m.entriesOf account).length ≤ 7900000000)
    (hstorable : (Money.new expected currency).isStorable = true)
    (hpresent : m.accounts.contains account = true) (stamp : Stamp) :
    ∃ record, Compares m stamp currency account expected record ∧
      (reconcile stamp currency account expected).ending Memory.backend m =
        (keep record).ending Memory.backend m := by
  obtain ⟨a, haccount⟩ := Option.isSome_iff_exists.1 hpresent
  have hbookable : Entry.Bookable currency (m.entriesOf account) := fun e he =>
    have hbooks := hm.books (fun _ h => h) (Memory.mem_of_mem_entriesOf he)
    ⟨hbooks.currency_eq, hbooks.storable⟩
  obtain ⟨calculated, htotal, -⟩ := Entry.exists_total hbookable hfew
  have hroom : ((m.entriesOf account).length + 1) * tens 19 ≤ twos 96 :=
    (Nat.mul_le_mul_right _ (Nat.succ_le_succ hfew)).trans (by decide)
  obtain ⟨n, hcounts, hbound, hbalance⟩ := hm.total_eq_balance htotal hroom
  obtain ⟨hasserted, hsmall⟩ := Money.counts_of_isStorable hstorable
  -- The expected balance is one more amount that fits the books, so there is room for the difference.
  rw [Nat.add_mul] at hroom
  obtain ⟨x, hx⟩ := hasserted.exists_sub hcounts (by omega)
  obtain ⟨difference, hdifference, -, hexact⟩ :=
    (Money.sub_combines (.new expected currency) calculated).exact hcounts.currency_eq.symm hx
  obtain ⟨record, hcompare⟩ : ∃ record, compare stamp account _ _ = .ok record :=
    ⟨_, compare_of_sub stamp account hdifference⟩
  obtain ⟨hstamp, hsame, hexpected, hcalculated, hsub⟩ := of_compare hcompare
  rw [hdifference] at hsub
  have hmissing : record.difference.value = record.expected.value - m.balance account := by
    rw [← Except.ok.inj hsub, hexact, hexpected, hbalance]
  refine ⟨record, ⟨hstamp, hsame, hexpected, fun now => ?_, ?_, hmissing, ?_⟩, ?_⟩
  · rw [Balance.ending_current, Balance.answer, haccount, htotal, hcalculated]
  · rw [hcalculated, hbalance]
  · rw [record.status_iff, hmissing, sub_eq_zero]
  · have hleads : m.Leads (fun _ => reconcile stamp currency account expected) _ :=
      leads_present hstorable haccount
    simp only [htotal, hcompare] at hleads
    exact hleads m.reads

/-- How a reconciliation ends, and the store after it. -/
inductive Ends (m : Memory) (stamp : Stamp) (currency : Currency) (account : AccountId)
    (expected : Decimal) : Except Error Reconciliation × Memory → Prop where
  | outOfRange (range : ¬ |(Money.new expected currency).value| < 10 ^ 15) :
      Ends m stamp currency account expected (.error (.amountOutOfRange expected), m)
  | missing (range : |(Money.new expected currency).value| < 10 ^ 15)
      (absent : ¬ m.accounts.contains account = true) :
      Ends m stamp currency account expected (.error (.accountNotFound account), m)
  | refused {cause : StoreError} (range : |(Money.new expected currency).value| < 10 ^ 15)
      (present : m.accounts.contains account = true)
      (taken : ¬ ∀ r ∈ m.reconciliations, r.id ≠ ⟨stamp.id⟩) :
      Ends m stamp currency account expected (.error (.store cause), m)
  | kept {record : Reconciliation} (range : |(Money.new expected currency).value| < 10 ^ 15)
      (present : m.accounts.contains account = true)
      (new : ∀ r ∈ m.reconciliations, r.id ≠ ⟨stamp.id⟩)
      (compares : Compares m stamp currency account expected record) :
      Ends m stamp currency account expected
        (.ok record, { m with reconciliations := m.reconciliations ++ [record] })

theorem reconcile_ends (hm : m.Reached fun s => s.currency = currency) (stamp : Stamp)
    (expected : Decimal) (hfew : (m.entriesOf account).length ≤ 7900000000) :
    Ends m stamp currency account expected
      ((reconcile stamp currency account expected).ending Memory.backend m) := by
  have hrange := Money.isStorable_iff (.new expected currency)
  cases hstorable : (Money.new expected currency).isStorable with
  | false =>
      rw [show _ = (_, m) from leads_outOfRange hstorable m.reads]
      exact .outOfRange fun h => by rw [hrange.2 h] at hstorable; cases hstorable
  | true =>
      cases hpresent : m.accounts.contains account with
      | false =>
          rw [show _ = (_, m) from
            leads_missing hstorable (Table.contains_eq_false_iff.1 hpresent) m.reads]
          exact .missing (hrange.1 hstorable) (by simp [hpresent])
      | true =>
          obtain ⟨record, hcompares, hkeep⟩ := exists_compares hm hfew hstorable hpresent stamp
          have hid : record.id = ⟨stamp.id⟩ := congrArg (Id.mk ∘ Stamp.id) hcompares.stamp_eq
          rw [hkeep]
          rcases keep_cases m record with ⟨-, hnew, hkept⟩ | ⟨hknown, cause, hrefused⟩
          · rw [hkept]
            exact .kept (hrange.1 hstorable) hpresent (hid ▸ hnew) hcompares
          · rw [hrefused]
            obtain ⟨r, hr, hsame⟩ := hknown (hcompares.account_eq ▸ hpresent)
            exact .refused (hrange.1 hstorable) hpresent fun hnew => hnew r hr (hsame.trans hid)

/-- **A reconciliation compares the rounded expected balance with the exact one, and keeps the record of
that.** It fails for the range of the expected balance, and otherwise for an account that is not there;
the record is refused only if another one has its id. A failure leaves the store as it is, and all that
a success adds is the record. -/
theorem reconcile_compares (hm : m.Reached fun s => s.currency = currency) (stamp : Stamp)
    (account : AccountId) (expected : Decimal)
    (hfew : (m.entriesOf account).length ≤ 7900000000) :
    let ending := (reconcile stamp currency account expected).ending Memory.backend m
    RoundsAway 4 expected.value (Money.new expected currency).value ∧
    (∀ d, ending.1 = .error (.amountOutOfRange d) ↔
      d = expected ∧ 10 ^ 15 ≤ |(Money.new expected currency).value|) ∧
    (∀ id, ending.1 = .error (.accountNotFound id) ↔
      id = account ∧ |(Money.new expected currency).value| < 10 ^ 15 ∧
        m.accounts.contains account = false) ∧
    ((∃ record, ending.1 = .ok record) ↔
      |(Money.new expected currency).value| < 10 ^ 15 ∧ m.accounts.contains account = true ∧
        ∀ r ∈ m.reconciliations, r.id ≠ ⟨stamp.id⟩) ∧
    (∀ e, ending.1 = .error e → ending.2 = m) ∧
    ∀ record, ending.1 = .ok record → Compares m stamp currency account expected record ∧
      ending.2 = { m with reconciliations := m.reconciliations ++ [record] } ∧
      ∀ now currency id, ((Balance.current now currency id).ending Memory.backend ending.2).1 =
        ((Balance.current now currency id).ending Memory.backend m).1 := by
  intro ending
  refine ⟨Money.roundsAway_new expected currency, ?_⟩
  have hends : Ends m stamp currency account expected ending := reconcile_ends hm stamp expected hfew
  clear_value ending
  cases hends with
  | outOfRange range => simp [range, not_lt.1 range, @eq_comm _ expected]
  | missing range absent => simp [range, absent, @eq_comm _ account]
  | refused range present taken => simp [range, present, taken]
  | @kept record range present new compares =>
      have hbalances : ∀ now currency id, Balance.answer
          { m with reconciliations := m.reconciliations ++ [record] } now currency id =
            Balance.answer m now currency id := fun _ _ _ => rfl
      simpa [range, present, Balance.ending_current, hbalances, compares] using new

/-- The account of the deposit is expected to hold 9.99995, which is rounded to 10. -/
def almostTen : Decimal :=
  (Decimal.ofParts? false 999995 5).getD .zero

/-- It matches what was deposited, and the record is kept. -/
theorem reconcile_compares_almostTen :
    Memory.onceDeposited.Reached (fun s => s.currency = .brl) ∧
    ∃ record, ((reconcile ⟨⟨50⟩, .ofNanos 50⟩ .brl ⟨⟨1⟩⟩ almostTen).ending Memory.backend
        Memory.onceDeposited).1 = .ok record ∧
      record.status = .matching ∧ record.calculated.value = Memory.onceDeposited.balance ⟨⟨1⟩⟩ := by
  have hreached : Memory.onceDeposited.Reached fun s => s.currency = .brl :=
    Memory.reached_onceDeposited rfl
  obtain ⟨-, -, -, hok, -, hrecord⟩ :=
    reconcile_compares hreached ⟨⟨50⟩, .ofNanos 50⟩ ⟨⟨1⟩⟩ almostTen (by decide +kernel)
  obtain ⟨record, hresult⟩ := hok.2 ⟨by decide +kernel, by decide +kernel, by decide +kernel⟩
  obtain ⟨hcompares, -⟩ := hrecord record hresult
  refine ⟨hreached, record, hresult, hcompares.status.2 ?_, hcompares.balance⟩
  rw [hcompares.expected_eq]
  decide +kernel

end Daybook.Reconciliation
