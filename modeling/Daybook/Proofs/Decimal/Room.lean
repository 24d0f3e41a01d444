import Daybook.Proofs.Decimal.Rounding
import Mathlib.Data.Nat.Find

/-!
Room for digits. A number has room at a number of places when its digits up to there, rounded, are below
`2 ^ 96` (`Room`). Where a result or a text has too many digits for a decimal, as many places are kept as
there is room for (`roomiest`); a decimal has room for all of its own.
-/

namespace Daybook

/-- Rounded to so many places, the number has digits for a mantissa. Half a unit below `2 ^ 96` both ways
of rounding go up to it. -/
def Room (places : Nat) (x : Rat) : Prop :=
  |x| * (tens places : Nat) < (twos 96 : Nat) - 1 / 2

instance (places : Nat) (x : Rat) : Decidable (Room places x) :=
  inferInstanceAs (Decidable (_ < _))

/-- The most places that the number has room for, of so many. -/
def roomiest (places : Nat) (x : Rat) : Nat :=
  Nat.findGreatest (fun p => Room p x) places

section

variable {places p q : Nat} {x : Rat}

/-- Fewer places need less room. -/
theorem Room.mono (h : p ≤ q) (hroom : Room q x) : Room p x := by
  have hle : ((tens p : Nat) : Rat) ≤ (tens q : Nat) := Nat.cast_le.2 (tens_le_tens h)
  exact lt_of_le_of_lt (mul_le_mul_of_nonneg_left hle (abs_nonneg x)) hroom

theorem room_neg : Room p (-x) ↔ Room p x := by
  rw [Room, abs_neg, Room]

theorem roomiest_neg : roomiest places (-x) = roomiest places x := by
  unfold roomiest
  congr 1
  funext p
  exact propext room_neg

theorem le_roomiest (hp : p ≤ places) (hroom : Room p x) : p ≤ roomiest places x :=
  Nat.le_findGreatest hp hroom

theorem roomiest_eq (hp : p ≤ places) (hroom : Room p x) (hlast : ∀ q ≤ places, Room q x → q ≤ p) :
    roomiest places x = p :=
  Nat.le_antisymm (hlast _ (Nat.findGreatest_le _) (Nat.findGreatest_spec (P := fun q => Room q x) hp hroom))
    (le_roomiest hp hroom)

end

namespace Decimal

theorem abs_value (d : Decimal) : |d.value| = (d.mantissa : Rat) / (tens d.scale : Nat) := by
  rw [value, abs_div, Nat.abs_cast, ← Int.cast_abs, ← Nat.cast_natAbs, natAbs_signed]

/-- A decimal has room for its digits. -/
theorem room_scale (d : Decimal) : Room d.scale d.value := by
  have hsmall : (d.mantissa : Rat) + 1 ≤ (twos 96 : Nat) := by exact_mod_cast d.mantissa_lt
  rw [Room, abs_value, div_mul_cancel₀ _ (tens_ne_zero _)]
  linarith

/-- So where no more places are kept than it has room for, it is kept as it is. -/
theorem nearest_roomiest {tie : Rat → Int → Prop} {places : Nat} {d : Decimal} (h : d.scale ≤ places) :
    Nearest tie (roomiest places d.value) d.value d.value :=
  nearest_self (value_at (le_roomiest h d.room_scale))

end Decimal

end Daybook
