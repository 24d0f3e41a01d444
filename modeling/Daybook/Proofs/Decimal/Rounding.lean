import Daybook.Proofs.Decimal.Value
import Mathlib.Algebra.Group.Int.Even
import Mathlib.Algebra.Order.Field.Basic

/-!
Rounding to a number of places, said of exact numbers. Both ways of rounding take the nearest number of
so many places and differ in what they do with a half: `RoundsAway` goes away from zero, `RoundsEven` to
the even neighbour. Cutting digits off a decimal is the first (`Decimal.roundsAway_round`), dropping
digits of a sum is the second (`Decimal.roundsEven_dropping`).
-/

namespace Daybook

/-- Of the numbers with so many places, `y` is nearest to `x`; counted in the last place, `tie` tells
which of two that are as near is taken. -/
def Nearest (tie : Rat → Int → Prop) (places : Nat) (x y : Rat) : Prop :=
  ∃ n : Int, y = n / (tens places : Nat) ∧ 2 * |n - x * (tens places : Nat)| ≤ 1 ∧
    (2 * |n - x * (tens places : Nat)| = 1 → tie (x * (tens places : Nat)) n)

/-- Rounded to nearest, a half going away from zero. -/
def RoundsAway : Nat → Rat → Rat → Prop :=
  Nearest fun x n => |x| < |(n : Rat)|

/-- Rounded to nearest, a half going to the even neighbour. -/
def RoundsEven : Nat → Rat → Rat → Prop :=
  Nearest fun _ n => Even n

section

variable {tie : Rat → Int → Prop} {places scale : Nat} {x y : Rat} {N n : Int}

/-- What has no more places than that is kept. -/
theorem nearest_self (h : x = n / (tens places : Nat)) : Nearest tie places x x := by
  have hexact : (n : Rat) - x * (tens places : Nat) = 0 := by
    rw [h, div_mul_cancel₀ _ (Decimal.tens_ne_zero places), sub_self]
  refine ⟨n, h, ?_, ?_⟩ <;> rw [hexact] <;> norm_num

/-- Rounding a number that is counted in a later place. -/
theorem nearest_of_int (h : places ≤ scale)
    (near : 2 * (n * tens (scale - places) - N).natAbs ≤ tens (scale - places))
    (half : 2 * (n * tens (scale - places) - N).natAbs = tens (scale - places) →
      tie ((N : Rat) / (tens (scale - places) : Nat)) n) :
    Nearest tie places ((N : Rat) / (tens scale : Nat)) (n / (tens places : Nat)) := by
  have hsplit : ((tens scale : Nat) : Rat) = (tens places : Nat) * (tens (scale - places) : Nat) := by
    rw [← Nat.cast_mul, ← tens_add, Nat.add_sub_of_le h]
  have hplaces := Decimal.tens_ne_zero places
  have hunit := Decimal.tens_cast_pos (scale - places)
  generalize tens (scale - places) = unit at *
  have hcount : (N : Rat) / (tens scale : Nat) * (tens places : Nat) = N / (unit : Nat) := by
    rw [hsplit]
    field_simp
  have hdistance : 2 * |(n : Rat) - N / (unit : Nat)| =
      ((2 * (n * unit - N).natAbs : Nat) : Rat) / (unit : Nat) := by
    have hone : (n : Rat) - N / (unit : Nat) = ((n * unit - N : Int) : Rat) / (unit : Nat) := by
      push_cast
      field_simp
    rw [hone, abs_div, Nat.abs_cast, ← Int.cast_abs, ← Nat.cast_natAbs, Nat.cast_mul, Nat.cast_ofNat,
      mul_div_assoc]
  refine ⟨n, rfl, ?_, ?_⟩ <;> rw [hcount, hdistance]
  · rw [div_le_one hunit]
    exact_mod_cast near
  · intro htie
    rw [div_eq_one_iff_eq hunit.ne'] at htie
    exact half (by exact_mod_cast htie)

end

namespace RoundsAway

variable {places : Nat} {x x' y y' : Rat}

theorem neg (h : RoundsAway places x y) : RoundsAway places (-x) (-y) := by
  obtain ⟨n, rfl, hnear, htie⟩ := h
  have hdistance : ((-n : Int) : Rat) - -x * (tens places : Nat) = -(n - x * (tens places : Nat)) := by
    push_cast
    ring
  refine ⟨-n, by push_cast; ring, ?_, ?_⟩ <;> rw [hdistance, abs_neg]
  · exact hnear
  · intro h
    show |-x * (tens places : Nat)| < |((-n : Int) : Rat)|
    rw [neg_mul, abs_neg, Int.cast_neg, abs_neg]
    exact htie h

theorem neg_iff : RoundsAway places (-x) (-y) ↔ RoundsAway places x y :=
  ⟨fun h => by simpa only [neg_neg] using h.neg, neg⟩

/-- What is rounded from zero or more counts zero or more units. -/
theorem units_nonneg {r : Rat} {n : Int} (hr : 0 ≤ r) (h : 2 * r < 2 * n + 1) : (0 : Rat) ≤ n := by
  have hlast : ((-1 : Int) : Rat) < n := by
    push_cast
    linarith
  have hn : -1 < n := by exact_mod_cast hlast
  exact_mod_cast (show 0 ≤ n by omega)

/-- From zero upwards a number is rounded to `n` units from half a unit below them on, up to half a unit
above them. -/
theorem iff_of_nonneg (hx : 0 ≤ x) :
    RoundsAway places x y ↔ ∃ n : Int, y = n / (tens places : Nat) ∧
      2 * (n : Rat) - 1 ≤ 2 * (x * (tens places : Nat)) ∧ 2 * (x * (tens places : Nat)) < 2 * n + 1 := by
  have hcount : 0 ≤ x * (tens places : Nat) := mul_nonneg hx (Nat.cast_nonneg _)
  constructor
  · rintro ⟨n, hy, hnear, htie⟩
    obtain ⟨hlower, hupper⟩ := abs_le.1 (show |(n : Rat) - x * (tens places : Nat)| ≤ 1 / 2 by linarith)
    refine ⟨n, hy, by linarith, lt_of_le_of_ne (by linarith) fun heq => ?_⟩
    have hhalf : (n : Rat) - x * (tens places : Nat) = -(1 / 2) := by linarith
    have haway : |x * (tens places : Nat)| < |(n : Rat)| := htie (by rw [hhalf]; norm_num)
    have hbelow : (n : Rat) < |(n : Rat)| := by
      rw [abs_of_nonneg hcount] at haway
      linarith
    have hnegative : (n : Rat) < 0 := by
      by_contra hnonneg
      exact hbelow.ne (abs_of_nonneg (not_lt.1 hnonneg)).symm
    have hlast : (n : Rat) ≤ -1 := by
      have : n < 0 := by exact_mod_cast hnegative
      exact_mod_cast (show n ≤ -1 by omega)
    linarith
  · rintro ⟨n, hy, hlower, hupper⟩
    have hnear : |(n : Rat) - x * (tens places : Nat)| ≤ 1 / 2 := abs_le.2 ⟨by linarith, by linarith⟩
    refine ⟨n, hy, by linarith, fun htie => ?_⟩
    rcases abs_eq (show (0 : Rat) ≤ 1 / 2 by norm_num) |>.1
      (show |(n : Rat) - x * (tens places : Nat)| = 1 / 2 by linarith) with habove | hbelow
    · show |x * (tens places : Nat)| < |(n : Rat)|
      rw [abs_of_nonneg hcount, abs_of_nonneg (by linarith)]
      linarith
    · linarith

theorem nonneg (h : RoundsAway places x y) (hx : 0 ≤ x) : 0 ≤ y := by
  obtain ⟨n, rfl, -, hupper⟩ := (iff_of_nonneg hx).1 h
  exact div_nonneg (units_nonneg (mul_nonneg hx (Nat.cast_nonneg _)) hupper) (Nat.cast_nonneg _)

theorem unique_of_nonneg (hx : 0 ≤ x) (h : RoundsAway places x y) (h' : RoundsAway places x y') :
    y = y' := by
  obtain ⟨n, rfl, hlower, hupper⟩ := (iff_of_nonneg hx).1 h
  obtain ⟨n', rfl, hlower', hupper'⟩ := (iff_of_nonneg hx).1 h'
  have hle : n < n' + 1 := by exact_mod_cast (show (n : Rat) < n' + 1 by linarith)
  have hge : n' < n + 1 := by exact_mod_cast (show (n' : Rat) < n + 1 by linarith)
  have heq : n = n' := by omega
  rw [heq]

/-- A number is rounded in one way. -/
theorem unique (h : RoundsAway places x y) (h' : RoundsAway places x y') : y = y' := by
  rcases le_total 0 x with hx | hx
  · exact unique_of_nonneg hx h h'
  · exact neg_injective (unique_of_nonneg (neg_nonneg.2 hx) h.neg h'.neg)

theorem mono_of_nonneg (hx : 0 ≤ x) (hle : x ≤ x') (h : RoundsAway places x y)
    (h' : RoundsAway places x' y') : y ≤ y' := by
  obtain ⟨n, rfl, hlower, -⟩ := (iff_of_nonneg hx).1 h
  obtain ⟨n', rfl, -, hupper'⟩ := (iff_of_nonneg (hx.trans hle)).1 h'
  have hcount : x * (tens places : Nat) ≤ x' * (tens places : Nat) :=
    mul_le_mul_of_nonneg_right hle (Nat.cast_nonneg _)
  have hlt : n < n' + 1 := by exact_mod_cast (show (n : Rat) < n' + 1 by linarith)
  have hunits : (n : Rat) ≤ n' := by exact_mod_cast Int.lt_add_one_iff.1 hlt
  exact div_le_div_of_nonneg_right hunits (Nat.cast_nonneg _)

/-- What is not smaller is not rounded to less. -/
theorem mono (hle : x ≤ x') (h : RoundsAway places x y) (h' : RoundsAway places x' y') : y ≤ y' := by
  rcases le_total 0 x with hx | hx
  · exact mono_of_nonneg hx hle h h'
  · rcases le_total 0 x' with hx' | hx'
    · calc
        y ≤ 0 := neg_nonneg.1 (h.neg.nonneg (neg_nonneg.2 hx))
        _ ≤ y' := h'.nonneg hx'
    · exact neg_le_neg_iff.1 (mono_of_nonneg (neg_nonneg.2 hx') (neg_le_neg hle) h'.neg h.neg)

/-- A positive bound is reached by the rounded number exactly when the number is at most half a unit
below it. -/
theorem le_iff (h : RoundsAway places x y) {m : Int} (hm : 0 < m) :
    (m : Rat) / (tens places : Nat) ≤ y ↔ (2 * m - 1 : Rat) / (2 * (tens places : Nat)) ≤ x := by
  have hunit := Decimal.tens_cast_pos places
  have hone : (1 : Rat) ≤ m := by exact_mod_cast hm
  rcases le_total 0 x with hx | hx
  · obtain ⟨n, rfl, hlower, hupper⟩ := (iff_of_nonneg hx).1 h
    rw [div_le_div_iff_of_pos_right hunit, div_le_iff₀ (by linarith), Int.cast_le]
    constructor
    · intro hle
      have : (m : Rat) ≤ n := by exact_mod_cast hle
      linarith
    · intro hle
      have : (m : Rat) < n + 1 := by linarith
      have : m < n + 1 := by exact_mod_cast this
      omega
  · -- Below zero neither side holds.
    have hy := h.neg.nonneg (neg_nonneg.2 hx)
    constructor <;> intro hle <;> exfalso
    · have : 0 < (m : Rat) / (tens places : Nat) := div_pos (by linarith) hunit
      linarith
    · have : 0 < (2 * m - 1 : Rat) / (2 * (tens places : Nat)) := div_pos (by linarith) (by linarith)
      linarith

end RoundsAway

/-- Rounded half to even, too, a number is rounded in one way. -/
theorem RoundsEven.unique {places : Nat} {x y y' : Rat} (h : RoundsEven places x y)
    (h' : RoundsEven places x y') : y = y' := by
  obtain ⟨n, rfl, hnear, heven⟩ := h
  obtain ⟨n', rfl, hnear', heven'⟩ := h'
  generalize x * (tens places : Nat) = t at *
  by_cases hsame : n = n'
  · rw [hsame]
  exfalso
  -- Two integers that are as near as that are neighbours, and both are at half a unit.
  have hfar : (1 : Rat) ≤ |(n : Rat) - n'| := by
    have hone : 1 ≤ |n - n'| := Int.one_le_abs (sub_ne_zero.2 hsame)
    exact_mod_cast hone
  have htriangle : |(n : Rat) - n'| ≤ |(n : Rat) - t| + |(n' : Rat) - t| := by
    rw [abs_sub_comm (n' : Rat) t]
    exact abs_sub_le _ _ _
  have hneighbours : |n - n'| = 1 := by
    have hone : |(n : Rat) - n'| = 1 := by linarith
    exact_mod_cast hone
  obtain ⟨k, rfl⟩ := heven (by linarith)
  obtain ⟨k', rfl⟩ := heven' (by linarith)
  rcases abs_cases (k + k - (k' + k')) with ⟨habs, -⟩ | ⟨habs, -⟩ <;> omega

/-! ### Digits that go -/

/-- A whole number in its own multiples of a unit and the rest. -/
theorem int_div_add_mod (n unit : Nat) : (n : Int) = (n / unit : Nat) * unit + (n % unit : Nat) := by
  rw [Int.mul_comm]
  exact_mod_cast (Nat.div_add_mod n unit).symm

theorem succ_mul_cast (q unit : Nat) : ((q + 1 : Nat) : Int) * unit = q * unit + unit := by
  push_cast
  ring

/-- The quotient is nearest, and even where two are as near. -/
theorem divEven_near (n : Nat) {unit : Nat} (h : 0 < unit) :
    2 * ((divEven n unit : Int) * unit - n).natAbs ≤ unit ∧
      (2 * ((divEven n unit : Int) * unit - n).natAbs = unit → Even (divEven n unit)) := by
  have hrest := Nat.mod_lt n h
  rw [int_div_add_mod n unit, divEven]
  generalize n / unit = q
  generalize n % unit = r at *
  split_ifs with hup
  · rw [succ_mul_cast]
    exact ⟨by omega, fun htie => Nat.even_iff.2 (by omega)⟩
  · exact ⟨by omega, fun htie => Nat.even_iff.2 (by omega)⟩

namespace Decimal

/-- The quotient of `cut`, a half going up. -/
theorem quotient_near (n : Nat) {unit : Nat} (h : 0 < unit) :
    let m := if unit ≤ 2 * (n % unit) then n / unit + 1 else n / unit
    2 * ((m : Int) * unit - n).natAbs ≤ unit ∧
      (2 * ((m : Int) * unit - n).natAbs = unit → n < m * unit) := by
  have hrest := Nat.mod_lt n h
  have hwhole := int_div_add_mod n unit
  simp only
  generalize n / unit = q at *
  generalize n % unit = r at *
  split_ifs with hup
  · have hnext := succ_mul_cast q unit
    refine ⟨by omega, fun htie => ?_⟩
    have hlt : (n : Int) < ((q + 1 : Nat) : Int) * unit := by omega
    exact_mod_cast hlt
  · refine ⟨by omega, fun htie => ?_⟩
    omega

/-- A magnitude with a sign. -/
def withSign (negative : Bool) (magnitude : Nat) : Int :=
  if negative then -magnitude else magnitude

theorem natAbs_withSign (negative : Bool) (m : Nat) : (withSign negative m).natAbs = m := by
  cases negative <;> simp [withSign]

theorem withSign_decide (n : Int) : withSign (decide (n < 0)) n.natAbs = n := by
  simp only [withSign, decide_eq_true_eq]
  split_ifs <;> omega

/-- Magnitudes are rounded with the sign of the number. -/
theorem nearest_withSign {tie : Rat → Int → Prop} {places scale m n : Nat} (negative : Bool)
    (h : places ≤ scale)
    (near : 2 * ((m : Int) * tens (scale - places) - n).natAbs ≤ tens (scale - places))
    (half : 2 * ((m : Int) * tens (scale - places) - n).natAbs = tens (scale - places) →
      tie ((withSign negative n : Rat) / (tens (scale - places) : Nat)) (withSign negative m)) :
    Nearest tie places ((withSign negative n : Rat) / (tens scale : Nat))
      ((withSign negative m : Rat) / (tens places : Nat)) := by
  have hdistance : (withSign negative m * tens (scale - places) - withSign negative n).natAbs =
      ((m : Int) * tens (scale - places) - n).natAbs := by
    cases negative
    · rfl
    · simp only [withSign, if_true]
      rw [Int.neg_mul, Int.sub_neg, Int.add_comm, ← Int.sub_eq_add_neg, ← Int.natAbs_neg, Int.neg_sub]
  apply nearest_of_int h <;> rw [hdistance]
  · exact near
  · exact half

/-- Dropping digits of an exact result rounds to nearest, a half going to the even neighbour. -/
theorem roundsEven_dropping {negative : Bool} {magnitude scale k : Nat} {d : Decimal} (hk : k ≤ scale)
    (h : dropping negative magnitude scale k = some d) :
    RoundsEven (scale - k) ((withSign negative magnitude : Rat) / (tens scale : Nat)) d.value := by
  simp only [dropping] at h
  split at h
  · cases h
    have hgone : scale - (scale - k) = k := by omega
    obtain ⟨hnear, heven⟩ := divEven_near magnitude (tens_pos k)
    refine nearest_withSign negative (Nat.sub_le scale k) ?_ ?_ <;> rw [hgone]
    · exact hnear
    · intro htie
      have hquotient := (Int.even_coe_nat _).2 (heven htie)
      simp only [withSign]
      split_ifs
      · exact hquotient.neg
      · exact hquotient
  · cases h

/-- Cutting digits off rounds to nearest, a half going away from zero. -/
theorem roundsAway_cut (places : Nat) (d : Decimal) : RoundsAway places d.value (d.cut places).value := by
  rw [cut]
  split_ifs with hshort
  · exact nearest_self (value_at hshort)
  · have hunit := tens_pos (d.scale - places)
    obtain ⟨hnear, haway⟩ := quotient_near d.mantissa hunit
    refine nearest_withSign d.negative (by omega) hnear fun htie => ?_
    have habove := haway htie
    rw [abs_div, Nat.abs_cast, ← Int.cast_abs, ← Int.cast_abs, ← Nat.cast_natAbs, ← Nat.cast_natAbs,
      natAbs_withSign, natAbs_withSign, div_lt_iff₀ (Nat.cast_pos.2 hunit)]
    exact_mod_cast habove

/-- A number that is rounded to zero loses its sign and not its value. -/
theorem value_round (places : Nat) (d : Decimal) : (d.round places).value = (d.cut places).value := by
  have hsigned : (d.round places).signed = (d.cut places).signed := by
    by_cases hzero : (d.cut places).mantissa = 0 <;> simp [round, signed, hzero]
  rw [value, hsigned]
  rfl

/-- Rounding a decimal rounds its value to nearest, a half going away from zero. -/
theorem roundsAway_round (places : Nat) (d : Decimal) :
    RoundsAway places d.value (d.round places).value := by
  rw [value_round]
  exact roundsAway_cut places d

end Decimal

end Daybook
