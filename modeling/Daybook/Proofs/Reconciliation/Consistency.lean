import Daybook.Proofs.Database.Checks
import Daybook.Proofs.Money.Sign

/-!
Records agree with themselves. A comparison is refused for two currencies and for a difference that has no
room, and otherwise gives a record, whose status says whether the balances are equal: a difference that
has to be rounded is not taken for none. Of two balances one difference and one status are restored, and
nothing else is (`Reconciliation.records_agree`).
-/

namespace Daybook.Reconciliation

variable {expected calculated difference difference' : Money} {status status' : Status}

/-! ### Comparisons -/

/-- The record of two balances that have a difference. -/
theorem compare_of_sub (stamp : Stamp) (account : AccountId)
    (h : expected.sub calculated = .ok difference) :
    compare stamp account expected calculated =
      .ok ⟨⟨stamp.id⟩, account, stamp.time, expected, calculated, difference, .ofDifference difference,
        stamp.time, isConsistent_sub h⟩ := by
  rw [compare]
  split
  · rename_i derived hderived
    cases hderived.symm.trans h
    rfl
  · rename_i hrefused
    cases hrefused.symm.trans h

theorem compare_of_refused {cause : MoneyError} (stamp : Stamp) (account : AccountId)
    (h : expected.sub calculated = .error cause) :
    compare stamp account expected calculated = .error (.money cause) := by
  rw [compare]
  split
  · rename_i hderived
    cases hderived.symm.trans h
  · rename_i hrefused
    cases hrefused.symm.trans h
    rfl

/-- The difference has the sign of what is expected less what is calculated. -/
theorem sign_difference (r : Reconciliation) :
    SignType.sign r.difference.value = SignType.sign (r.expected.value - r.calculated.value) := by
  obtain ⟨derived, hsub, hsame, -⟩ := r.exists_sub
  obtain ⟨hvalue, -⟩ := (Money.same_iff _ _).1 hsame
  rw [← hvalue]
  exact Money.sign_sub hsub

/-- The status tells whether the balances are equal. -/
theorem matching_iff (r : Reconciliation) :
    r.status = .matching ↔ r.expected.value = r.calculated.value := by
  rw [r.status_iff, ← sign_eq_zero_iff, r.sign_difference, sign_eq_zero_iff, sub_eq_zero]

/-- What a comparison of two balances comes to. -/
structure Compared (stamp : Stamp) (account : AccountId) (expected calculated : Money)
    (result : Except Error Reconciliation) : Prop where
  mismatch : expected.currency ≠ calculated.currency →
    result = .error (.money (.currencyMismatch expected.currency calculated.currency))
  overflow : expected.currency = calculated.currency → ¬ Room 0 (expected.value - calculated.value) →
    result = .error (.money (.overflow expected.amount '-' calculated.amount))
  record : expected.currency = calculated.currency → Room 0 (expected.value - calculated.value) →
    ∃ r, result = .ok r ∧ r.id = ⟨stamp.id⟩ ∧ r.account = account ∧ r.date = stamp.time ∧
      r.createdAt = stamp.time ∧ r.expected = expected ∧ r.calculated = calculated ∧
      r.difference.currency = expected.currency ∧
      RoundsEven (roomiest 4 (expected.value - calculated.value)) (expected.value - calculated.value)
        r.difference.value ∧
      (r.status = .matching ↔ expected.value = calculated.value)

theorem compared_compare (stamp : Stamp) (account : AccountId) (expected calculated : Money) :
    Compared stamp account expected calculated (compare stamp account expected calculated) := by
  have hsub := Money.sub_combines expected calculated
  refine ⟨fun hother => ?_, fun hsame hfull => ?_, fun hsame hroom => ?_⟩
  · exact compare_of_refused stamp account (hsub.mismatch hother)
  · exact compare_of_refused stamp account (hsub.overflow hsame hfull)
  · obtain ⟨difference, hdifference, hcurrency, hrounded, -⟩ := hsub.rounded hsame hroom
    exact ⟨_, compare_of_sub stamp account hdifference, rfl, rfl, rfl, rfl, rfl, rfl, hcurrency,
      hrounded, matching_iff _⟩

/-! ### What is restored -/

/-- The difference is that of the balances, and the status is that of the difference. -/
structure Agrees (expected calculated difference : Money) (status : Status) : Prop where
  sub : ∃ derived, expected.sub calculated = .ok derived ∧ derived.value = difference.value ∧
    derived.currency = difference.currency
  status : status = .matching ↔ difference.value = 0

theorem isConsistent_iff :
    isConsistent expected calculated difference status = true ↔
      Agrees expected calculated difference status := by
  rw [isConsistent]
  cases hsub : expected.sub calculated with
  | error cause =>
      refine iff_of_false Bool.false_ne_true fun h => ?_
      obtain ⟨derived, hderived, -⟩ := h.sub
      cases hsub.symm.trans hderived
  | ok derived =>
      rw [Bool.and_eq_true, Money.same_iff, beq_iff_eq, eq_ofDifference_iff]
      constructor
      · rintro ⟨hsame, hstatus⟩
        exact ⟨⟨derived, hsub, hsame⟩, hstatus⟩
      · rintro ⟨⟨derived', hderived, hsame⟩, hstatus⟩
        cases hsub.symm.trans hderived
        exact ⟨hsame, hstatus⟩

/-- There is one difference, by value, and one status. -/
theorem Agrees.unique (h : Agrees expected calculated difference status)
    (h' : Agrees expected calculated difference' status') :
    difference.value = difference'.value ∧ difference.currency = difference'.currency ∧
      status = status' := by
  obtain ⟨derived, hsub, hvalue, hcurrency⟩ := h.sub
  obtain ⟨derived', hsub', hvalue', hcurrency'⟩ := h'.sub
  cases hsub.symm.trans hsub'
  have hsame : difference.value = difference'.value := hvalue.symm.trans hvalue'
  refine ⟨hsame, hcurrency.symm.trans hcurrency', ?_⟩
  have hmatching : status = .matching ↔ status' = .matching := by
    rw [h.status, h'.status, hsame]
  cases status <;> cases status' <;> simp_all

/-- **A record agrees with itself.** Two balances are compared unless they are in two currencies or their
difference has no room, and they match exactly when they are equal, also where digits of the difference
are dropped. A record is restored as it was, if its difference is that of its balances and its status is
that of its difference, and it is refused as inconsistent otherwise. So two balances have one difference
and one status, and what any record holds is restored to that record. -/
theorem records_agree (expected calculated : Money) :
    (∀ stamp account,
      Compared stamp account expected calculated (compare stamp account expected calculated)) ∧
    (∀ id account date difference status createdAt,
      (∀ agrees : Agrees expected calculated difference status,
        restore id account date expected calculated difference status createdAt =
          .ok ⟨id, account, date, expected, calculated, difference, status, createdAt,
            isConsistent_iff.2 agrees⟩) ∧
      (¬ Agrees expected calculated difference status →
        restore id account date expected calculated difference status createdAt =
          .error (.inconsistentReconciliation id))) ∧
    (∀ r s : Reconciliation, r.expected = expected → r.calculated = calculated →
      s.expected = expected → s.calculated = calculated →
      r.difference.value = s.difference.value ∧ r.difference.currency = s.difference.currency ∧
        r.status = s.status) ∧
    ∀ r : Reconciliation,
      restore r.id r.account r.date r.expected r.calculated r.difference r.status r.createdAt = .ok r := by
  refine ⟨fun stamp account => compared_compare stamp account expected calculated,
    fun id account date difference status createdAt => ⟨fun agrees => ?_, fun hdiffers => ?_⟩, ?_,
    restore_self⟩
  · exact dif_pos (isConsistent_iff.2 agrees)
  · exact dif_neg fun h => hdiffers (isConsistent_iff.1 h)
  · rintro r s rfl rfl hexpected hcalculated
    have hs : Agrees r.expected r.calculated s.difference s.status :=
      hexpected ▸ hcalculated ▸ isConsistent_iff.1 s.consistent
    exact (isConsistent_iff.1 r.consistent).unique hs

end Daybook.Reconciliation
