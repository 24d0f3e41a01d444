import Daybook.Proofs.Decimal.Rounding
import Daybook.Proofs.Money.Sum

/-!
The rounding of a new amount: to four places, a half going away from zero (`Money.roundsAway_new`). From
it come the bounds between which a decimal makes an amount that can be booked (`Money.isPositive_new`,
`Money.isStorable_new`).
-/

namespace Daybook.Money

/-- A new amount is the decimal rounded to four places. -/
theorem roundsAway_new (d : Decimal) (c : Currency) : RoundsAway 4 d.value (new d c).value := by
  have hvalue : (new d c).value = (d.round 4).value := Decimal.value_raise 4 _
  rw [hvalue]
  exact Decimal.roundsAway_round 4 d

theorem isPositive_iff_value (m : Money) : m.isPositive = true ↔ 0 < m.value :=
  isPositive_iff.trans m.amount.value_pos_iff.symm

/-- Half a unit is the smallest that is rounded to more than nothing. -/
theorem isPositive_new (d : Decimal) (c : Currency) :
    (new d c).isPositive = true ↔ 0.00005 ≤ d.value := by
  have hrounds := roundsAway_new d c
  have hunit := hrounds.le_iff (show (0 : Int) < 1 by decide)
  have hpositive : 0 < (new d c).value ↔ ((1 : Int) : Rat) / (tens 4 : Nat) ≤ (new d c).value := by
    obtain ⟨n, hn, -, -⟩ := hrounds
    rw [hn, div_le_div_iff_of_pos_right (Decimal.tens_cast_pos 4), Int.cast_le,
      lt_div_iff₀ (Decimal.tens_cast_pos 4), zero_mul, Int.cast_pos]
    exact Iff.rfl
  have hhalf : (2 * ((1 : Int) : Rat) - 1) / (2 * (tens 4 : Nat)) = 0.00005 := by
    norm_num [tens]
  rw [isPositive_iff_value, hpositive, hunit, hhalf]

/-- What is not negative fits the books up to half a unit below 10¹⁵. -/
theorem isStorable_new {d : Decimal} {c : Currency} (h : 0 ≤ (new d c).value) :
    (new d c).isStorable = true ↔ d.value < 999999999999999.99995 := by
  have hbound := (roundsAway_new d c).le_iff (show (0 : Int) < 10000000000000000000 by decide)
  have hfull : ((10000000000000000000 : Int) : Rat) / (tens 4 : Nat) = 10 ^ 15 := by
    norm_num [tens]
  have hhalf : (2 * ((10000000000000000000 : Int) : Rat) - 1) / (2 * (tens 4 : Nat)) =
      999999999999999.99995 := by
    norm_num [tens]
  rw [hfull, hhalf] at hbound
  rw [isStorable_iff, abs_of_nonneg h, ← not_le, hbound, not_le]

end Daybook.Money
