import Daybook.Proofs.Decimal.Written
import Daybook.Proofs.Money.Rounding

/-!
New amounts over the whole range of a decimal (`Money.nearest_new`). Rounding takes the nearest amount, so
it keeps the order, and the point is then moved towards four places as long as there is room. There is room
for all four exactly when the amount in its last place is below `2 ^ 96` (`Money.scale_eq_four_iff`).
-/

namespace Daybook

/-- Digits, with a minus sign or without, and exactly so many more behind a point. -/
def FractionDigits (places : Nat) (cs : List Char) : Prop :=
  ∃ sign whole fraction, cs = sign ++ whole ++ '.' :: fraction ∧ (sign = [] ∨ sign = ['-']) ∧
    whole ≠ [] ∧ fraction.length = places ∧ ∀ c ∈ whole ++ fraction, c.isDigit = true

/-- Behind the point stand as many digits as the scale says. -/
theorem Decimal.fractionDigits_toText {d : Decimal} (h : d.scale ≠ 0) :
    FractionDigits d.scale d.toText.toList := by
  refine ⟨if d.negative then ['-'] else [], d.whole, d.fraction, ?_, ?_, d.whole_ne_nil,
    d.length_fraction, fun c hc => ?_⟩
  · rw [toText, String.toList_ofList, toChars]
    simp only [if_neg h]
    rfl
  · cases d.negative
    · exact Or.inl rfl
    · exact Or.inr rfl
  · rw [whole_append_fraction] at hc
    exact isDigit_of_mem_digits hc

namespace Money

/-- All four places are there exactly when there is room for them. -/
theorem scale_eq_four_iff (m : Money) :
    m.amount.scale = 4 ↔ |m.value| * (tens 4 : Nat) < (twos 96 : Nat) := by
  have habs : |m.value| = (m.amount.mantissa : Rat) / (tens m.amount.scale : Nat) := m.amount.abs_value
  have hunit := Decimal.tens_ne_zero m.amount.scale
  constructor
  · intro hscale
    rw [hscale] at habs hunit
    rw [habs, div_mul_cancel₀ _ hunit]
    exact_mod_cast m.amount.mantissa_lt
  · intro hroom
    by_contra hless
    have hlt : m.amount.scale < 4 := lt_of_le_of_ne m.scale_le hless
    have hfull := m.settled.2 hlt
    have hsplit : tens 4 = tens (4 - m.amount.scale) * tens m.amount.scale := by
      rw [← tens_add, Nat.sub_add_cancel m.scale_le]
    have hcount : |m.value| * (tens 4 : Nat) = ((m.amount.mantissa * tens (4 - m.amount.scale) : Nat) : Rat) := by
      rw [habs, hsplit]
      push_cast
      field_simp
    have hmore : m.amount.mantissa * 10 ≤ m.amount.mantissa * tens (4 - m.amount.scale) :=
      Nat.mul_le_mul_left _ (ten_le_tens (by omega))
    rw [hcount, Nat.cast_lt] at hroom
    omega

/-- An amount that fits the books has room for its four places. -/
theorem room_of_isStorable {m : Money} (h : m.isStorable = true) :
    |m.value| * (tens 4 : Nat) < (twos 96 : Nat) :=
  (scale_eq_four_iff m).1 (scale_of_isStorable h)

theorem value_new_of_units {d : Decimal} {n : Int} (h : d.value = n / (tens 4 : Nat)) (c : Currency) :
    (new d c).value = d.value :=
  (roundsAway_new d c).unique (nearest_self h)

/-- The opposite of a decimal makes the opposite amount. -/
theorem value_new_neg (d : Decimal) (c : Currency) : (new d.neg c).value = -(new d c).value := by
  have hopposite := roundsAway_new d.neg c
  rw [Decimal.value_neg] at hopposite
  exact hopposite.unique (roundsAway_new d c).neg

/-- **A new amount is the nearest one, for every decimal.** It is rounded to four places, a half going away
from zero; so nothing changes where there are no more, the order is kept, opposites are rounded alike, and
an amount made again is the same. Four digits are written behind the point whenever there is room for them
in a mantissa, which is so for all amounts that fit the books. -/
theorem nearest_new (d : Decimal) (c : Currency) :
    RoundsAway 4 d.value (new d c).value ∧
      (∀ n : Int, d.value = n / (tens 4 : Nat) → (new d c).value = d.value) ∧
      (∀ d' : Decimal, d.value ≤ d'.value → (new d c).value ≤ (new d' c).value) ∧
      (new d.neg c).value = -(new d c).value ∧
      new (new d c).amount c = new d c ∧
      (|(new d c).value| * (tens 4 : Nat) < (twos 96 : Nat) →
        (new d c).amount.scale = 4 ∧ FractionDigits 4 (new d c).amount.toText.toList) ∧
      ((new d c).isStorable = true → |(new d c).value| * (tens 4 : Nat) < (twos 96 : Nat)) := by
  refine ⟨roundsAway_new d c, fun n hn => value_new_of_units hn c, fun d' hle => ?_, value_new_neg d c,
    new_self (new d c), fun hroom => ?_, room_of_isStorable⟩
  · exact (roundsAway_new d c).mono hle (roundsAway_new d' c)
  · have hscale := (scale_eq_four_iff (new d c)).2 hroom
    have hwritten := Decimal.fractionDigits_toText (d := (new d c).amount) (by omega)
    rw [hscale] at hwritten
    exact ⟨hscale, hwritten⟩

end Money

end Daybook
