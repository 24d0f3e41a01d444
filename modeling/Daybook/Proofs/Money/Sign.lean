import Daybook.Proofs.Money.Arithmetic
import Mathlib.Data.Sign.Basic

/-!
The sign of a difference. Where a difference is rounded it is far from zero, so the digits that it loses
do not turn it round and do not make it nothing: its sign is that of the exact difference
(`Money.sign_sub`), and amounts that differ have a difference that is not zero.
-/

namespace Daybook

variable {tie : Rat → Int → Prop} {places : Nat} {x y : Rat}

/-- A number of more than half a unit keeps its sign when it is rounded. -/
theorem Nearest.sign_eq (h : Nearest tie places x y) (hlarge : 1 < 2 * (|x| * (tens places : Nat))) :
    SignType.sign y = SignType.sign x := by
  obtain ⟨n, rfl, hnear, -⟩ := h
  have hunit := Decimal.tens_cast_pos places
  have hnumber : SignType.sign (x * (tens places : Nat)) = SignType.sign x := by
    rw [sign_mul, sign_pos hunit, mul_one]
  have hrounded : SignType.sign ((n : Rat) / (tens places : Nat)) = SignType.sign (n : Rat) := by
    rw [div_eq_mul_inv, sign_mul, sign_pos (inv_pos.2 hunit), mul_one]
  rw [← Nat.abs_cast (tens places), ← abs_mul] at hlarge
  rw [hrounded, ← hnumber]
  generalize x * (tens places : Nat) = t at *
  obtain ⟨hlower, hupper⟩ := abs_le.1 (show |(n : Rat) - t| ≤ 1 / 2 by linarith)
  rcases le_total 0 t with ht | ht
  · rw [abs_of_nonneg ht] at hlarge
    rw [sign_pos (show 0 < t by linarith), sign_pos (show (0 : Rat) < n by linarith)]
  · rw [abs_of_nonpos ht] at hlarge
    rw [sign_neg (show t < 0 by linarith), sign_neg (show (n : Rat) < 0 by linarith)]

/-- What is rounded for want of room is large, and what is counted in the last place is exact otherwise. -/
theorem sign_of_roomiest {n : Int} (hx : x = n / (tens places : Nat))
    (h : RoundsEven (roomiest places x) x y) : SignType.sign y = SignType.sign x := by
  rcases Nat.lt_or_ge (roomiest places x) places with hless | hfull
  · -- There is no room for one place more, so the number is far larger than a unit of the last place.
    have htight : ¬ Room (roomiest places x + 1) x := fun hroom =>
      absurd (le_roomiest hless hroom) (by omega)
    rw [Room, not_lt, tens_succ, Nat.cast_mul, ← mul_assoc] at htight
    have hbound : (100 : Rat) ≤ (twos 96 : Nat) := by exact_mod_cast (by decide : 100 ≤ twos 96)
    refine h.sign_eq ?_
    push_cast at htight
    linarith
  · have hplaces : roomiest places x = places := Nat.le_antisymm (Nat.findGreatest_le _) hfull
    rw [hplaces] at h
    rw [h.unique (nearest_self hx)]

namespace Money

/-- An amount counts units of the last place. -/
theorem exists_units (m : Money) : ∃ n : Int, m.value = n / (tens 4 : Nat) :=
  ⟨_, Decimal.value_at m.scale_le⟩

/-- **A difference has the sign of the exact difference**, also where it is rounded. -/
theorem sign_sub {a b c : Money} (h : a.sub b = .ok c) :
    SignType.sign c.value = SignType.sign (a.value - b.value) := by
  obtain ⟨-, -, -, hrounded⟩ := (sub_combines a b).of_ok h
  obtain ⟨n, hn⟩ := a.exists_units
  obtain ⟨k, hk⟩ := b.exists_units
  refine sign_of_roomiest (n := n - k) ?_ hrounded
  rw [hn, hk, Int.cast_sub, sub_div]

end Money
end Daybook
