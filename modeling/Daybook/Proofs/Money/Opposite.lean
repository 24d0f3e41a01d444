import Daybook.Money
import Mathlib.Tactic.Common

/-!
Amounts and their opposites. An amount and its opposite add up to zero in either order
(`Money.add_negate`), and an amount that fits the books has exactly four digits after the point
(`Money.scale_of_isStorable`).
-/

namespace Daybook

namespace Decimal

/-- A settled decimal cannot be raised any further. -/
theorem raise_of_settled {places : Nat} {d : Decimal} (h : Settled places d) :
    d.raise places = d := by
  rw [raise]
  cases hgap : places - d.scale with
  | zero => rfl
  | succ n =>
      have hfull := h.2 (by omega)
      rw [raiseBy, dif_neg]
      rintro ⟨hroom, -⟩
      omega

theorem mantissa_raiseBy_zero {n : Nat} {d : Decimal} (h : d.mantissa = 0) :
    (raiseBy n d).mantissa = 0 := by
  induction n generalizing d with
  | zero => exact h
  | succ n ih =>
      rw [raiseBy]
      split
      · exact ih (by simp [h])
      · exact h

theorem neg_neg (d : Decimal) : d.neg.neg = d := by
  cases d
  simp [neg]

/-- Nothing has to be dropped from zero. -/
theorem fit_zero {negative : Bool} {scale : Nat} (h : scale ≤ 28) :
    fit negative 0 scale = some ⟨negative, 0, scale, by decide, h⟩ := by
  have hzero : divEven 0 (tens 0) = 0 := rfl
  have hkept : dropping negative 0 scale 0 = some ⟨negative, 0, scale, by decide, h⟩ := by
    simp only [dropping, hzero, Nat.sub_zero]
    rw [dif_pos ⟨by decide, h⟩]
  rw [fit, List.range_succ_eq_map, List.findSome?_cons, hkept]

/-- A decimal and its opposite add up to zero. -/
theorem add_neg (d : Decimal) : ∃ z, d.add? d.neg = some z ∧ z.mantissa = 0 := by
  rw [add?]
  split_ifs with hzero hopposite
  · exact ⟨d.neg, rfl, by simpa [isZero, neg] using hzero⟩
  · exact absurd hopposite hzero
  · have hscale : d.neg.scale = d.scale := rfl
    have hsum : d.signed * tens (max d.scale d.neg.scale - d.scale) +
        d.neg.signed * tens (max d.scale d.neg.scale - d.neg.scale) = 0 := by
      rw [signed_neg, hscale, Int.neg_mul]
      exact Int.add_right_neg _
    have hbound : max d.scale d.neg.scale ≤ 28 := by
      rw [hscale, Nat.max_self]
      exact d.scale_le
    refine ⟨⟨false, 0, max d.scale d.neg.scale, by decide, hbound⟩, ?_, rfl⟩
    rw [fittedSum]
    simp only [hsum]
    exact fit_zero hbound

end Decimal

namespace Money

theorem settle_self (m : Money) (h : m.amount.scale ≤ 4) : settle m.amount m.currency h = m := by
  cases m with
  | mk amount currency settled =>
      simp only [settle, Decimal.raise_of_settled settled]

theorem ofResult_some {error : MoneyError} {c : Currency} {d? : Option Decimal} {d : Decimal}
    {h : ∀ d, d? = some d → d.scale ≤ 4} (hd : d? = some d) :
    ofResult error c d? h = .ok (settle d c (h d hd)) := by
  subst hd
  rfl

theorem negate_negate (m : Money) : m.negate.negate = m := by
  cases m
  simp only [negate, Decimal.neg_neg]

theorem isPositive_iff {m : Money} : m.isPositive = true ↔ 0 < m.amount.signed :=
  decide_eq_true_iff

theorem isZero_of_isPositive {m : Money} (h : m.isPositive = true) : m.isZero = false := by
  rw [isPositive_iff] at h
  have habs := Decimal.natAbs_signed m.amount
  simp only [isZero, Decimal.isZero, beq_eq_false_iff_ne]
  omega

/-- Zero is neutral on the left. -/
theorem zero_add (m : Money) : (zero m.currency).add m = .ok m := by
  have hcurrency : (zero m.currency).currency = m.currency := rfl
  rw [add, if_pos hcurrency]
  exact (ofResult_some rfl).trans (congrArg _ (settle_self m m.scale_le))

/-- An amount and its opposite add up to zero. -/
theorem add_negate (m : Money) : ∃ z, m.add m.negate = .ok z ∧ z.isZero = true := by
  obtain ⟨d, hd, hzero⟩ := Decimal.add_neg m.amount
  have hadd : Decimal.add? m.amount m.negate.amount = some d := hd
  have hscale : d.scale ≤ 4 := by
    have hmax := Decimal.scale_add_le hadd
    have hleft := m.scale_le
    have hright := m.negate.scale_le
    omega
  refine ⟨settle d m.currency hscale, ?_, ?_⟩
  · rw [add, if_pos (show m.currency = m.negate.currency from rfl)]
    exact ofResult_some hadd
  · simp only [isZero, Decimal.isZero, settle, Decimal.raise, beq_iff_eq]
    exact Decimal.mantissa_raiseBy_zero hzero

/-- An amount that fits the books has exactly four digits after the point. -/
theorem scale_of_isStorable {m : Money} (h : m.isStorable = true) : m.amount.scale = 4 := by
  have hsmall : m.amount.mantissa < tens 15 * tens m.amount.scale := of_decide_eq_true h
  obtain ⟨hle, hfull⟩ := m.settled
  by_contra hne
  have hlt : m.amount.scale < 4 := by omega
  have hbig : twos 96 ≤ m.amount.mantissa * 10 := hfull hlt
  have hbound : m.amount.mantissa < tens 15 * tens 3 := by
    have hscale : tens m.amount.scale ≤ tens 3 := tens_le_tens (by omega)
    calc
      m.amount.mantissa < tens 15 * tens m.amount.scale := hsmall
      _ ≤ tens 15 * tens 3 := Nat.mul_le_mul_left _ hscale
  have hfits : tens 15 * tens 3 * 10 < twos 96 := by decide
  omega

end Money
end Daybook
