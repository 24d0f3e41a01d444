import Daybook.Proofs.Decimal.Value
import Daybook.Proofs.Money.Opposite

/-!
The exact values of amounts. Amounts are the same when their values and currencies are, an amount
that is made once more stays as it is (`Money.new_self`), and a difference of amounts is exact
whenever some decimal has its exact value (`Money.value_sub_iff`).
-/

namespace Daybook.Money

/-- The exact value of an amount. -/
def value (m : Money) : Rat :=
  m.amount.value

@[simp]
theorem value_negate (m : Money) : m.negate.value = -m.value :=
  m.amount.value_neg

theorem value_eq_zero_iff (m : Money) : m.value = 0 ↔ m.isZero = true :=
  m.amount.value_eq_zero_iff

theorem same_iff (a b : Money) : a.same b = true ↔ a.value = b.value ∧ a.currency = b.currency := by
  rw [same, Bool.and_eq_true, Decimal.same_iff, beq_iff_eq]
  rfl

theorem ext {a b : Money} (hamount : a.amount = b.amount) (hcurrency : a.currency = b.currency) :
    a = b := by
  cases a
  cases b
  cases hamount
  cases hcurrency
  rfl

/-- Nothing is cut from an amount. -/
theorem round_amount (m : Money) : m.amount.round 4 = m.amount := by
  have hcut : m.amount.cut 4 = m.amount := by
    rw [Decimal.cut, dif_pos m.scale_le]
  have hsign : (m.amount.mantissa != 0 || m.amount.mantissa == 0) = true := by
    cases hzero : m.amount.mantissa == 0 <;> simp [bne, hzero]
  rw [Decimal.round, hcut]
  simp only [hsign, Bool.and_true]

/-- An amount is rounded once: made again from its own decimal, it is the same amount. -/
theorem new_self (m : Money) : new m.amount m.currency = m := by
  have hsettled : (m.amount.round 4).raise 4 = m.amount := by
    rw [round_amount, Decimal.raise_of_settled m.settled]
  exact ext hsettled rfl

/-! ### Differences -/

theorem ofResult_eq_ok {error : MoneyError} {c : Currency} {d? : Option Decimal} {m : Money}
    {h : ∀ d, d? = some d → d.scale ≤ 4} (hm : ofResult error c d? h = .ok m) :
    ∃ d, d? = some d ∧ m.value = d.value ∧ m.currency = c := by
  cases d? with
  | none => cases hm
  | some d =>
      cases hm
      exact ⟨d, rfl, Decimal.value_raise 4 d, rfl⟩

/-- A difference is that of the decimals, in the currency of both. -/
theorem sub_eq_ok {a b c : Money} (h : a.sub b = .ok c) :
    b.currency = a.currency ∧ c.currency = a.currency ∧
      ∃ d, a.amount.sub? b.amount = some d ∧ c.value = d.value := by
  rw [sub] at h
  split_ifs at h with hcurrency
  obtain ⟨d, hd, hvalue, hresult⟩ := ofResult_eq_ok h
  exact ⟨hcurrency.symm, hresult, d, hd, hvalue⟩

/-- **A difference is exact exactly when some decimal has its value.** -/
theorem value_sub_iff {a b c : Money} (h : a.sub b = .ok c) :
    c.value = a.value - b.value ↔ ∃ x : Decimal, x.value = a.value - b.value := by
  obtain ⟨-, -, d, hd, hvalue⟩ := sub_eq_ok h
  rw [hvalue]
  exact Decimal.value_sub_iff hd

/-- Fifteen digits before the point and four after it. -/
theorem mantissa_lt_of_isStorable {m : Money} (h : m.isStorable = true) :
    m.amount.mantissa < tens 19 := by
  have hbound : m.amount.mantissa < tens 15 * tens m.amount.scale := of_decide_eq_true h
  rwa [scale_of_isStorable h, ← tens_add] at hbound

/-- The exact difference of amounts that fit the books is a decimal. -/
theorem exists_difference {a b : Money} (ha : a.isStorable = true) (hb : b.isStorable = true) :
    ∃ x : Decimal, x.value = a.value - b.value := by
  have hroom : tens 19 + tens 19 < twos 96 := by decide
  have hdifference : (a.amount.signed - b.amount.signed).natAbs < twos 96 := by
    have habs := Int.natAbs_sub_le a.amount.signed b.amount.signed
    rw [Decimal.natAbs_signed, Decimal.natAbs_signed] at habs
    have := mantissa_lt_of_isStorable ha
    have := mantissa_lt_of_isStorable hb
    omega
  obtain ⟨x, hsigned, hscale⟩ := Decimal.exists_signed hdifference (show 4 ≤ 28 by decide)
  refine ⟨x, ?_⟩
  rw [Decimal.value, hsigned, hscale, value, value, Decimal.value, Decimal.value,
    scale_of_isStorable ha, scale_of_isStorable hb, ← sub_div]
  push_cast
  rfl

end Daybook.Money
