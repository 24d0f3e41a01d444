import Daybook.Decimal.Arithmetic
import Mathlib.Algebra.Order.Field.Rat
import Mathlib.Data.Rat.Cast.Order
import Mathlib.Tactic.FieldSimp
import Mathlib.Tactic.Linarith
import Mathlib.Tactic.Ring

/-!
The numbers that decimals stand for. Two decimals are the same exactly when their values are, and
raising the scale changes no value. A difference is exact whenever some decimal has its exact value
(`Decimal.value_sub_iff`): digits are dropped one after the other, and only as long as the mantissa
is too big, so digits that are not zero stay wherever there is room for them.
-/

namespace Daybook.Decimal

theorem tens_ne_zero (k : Nat) : ((tens k : Nat) : Rat) ≠ 0 :=
  Nat.cast_ne_zero.2 (tens_pos k).ne'

theorem tens_cast_pos (k : Nat) : (0 : Rat) < (tens k : Nat) :=
  Nat.cast_pos.2 (tens_pos k)

/-! ### Signs and comparison -/

theorem value_neg (d : Decimal) : d.neg.value = -d.value := by
  rw [value, signed_neg, value, ← neg_div, ← Int.cast_neg]
  rfl

theorem value_pos_iff (d : Decimal) : 0 < d.value ↔ 0 < d.signed := by
  rw [value, lt_div_iff₀ (tens_cast_pos _), zero_mul, Int.cast_pos]

theorem value_neg_iff (d : Decimal) : d.value < 0 ↔ d.signed < 0 := by
  have hneg := d.neg.value_pos_iff
  rw [value_neg, signed_neg] at hneg
  constructor
  · intro h
    have := hneg.1 (by linarith)
    omega
  · intro h
    have := hneg.2 (by omega)
    linarith

theorem value_eq_zero_iff (d : Decimal) : d.value = 0 ↔ d.isZero = true := by
  have habs := d.natAbs_signed
  rw [value, div_eq_zero_iff, or_iff_left (tens_ne_zero _), Int.cast_eq_zero, isZero, beq_iff_eq]
  omega

/-- Decimals are the same exactly when they stand for one number. -/
theorem same_iff (a b : Decimal) : a.same b = true ↔ a.value = b.value := by
  rw [same, beq_iff_eq, value, value, div_eq_div_iff (tens_ne_zero _) (tens_ne_zero _)]
  constructor
  · intro h
    exact_mod_cast h
  · intro h
    exact_mod_cast h

theorem exists_signed {n : Int} {scale : Nat} (hn : n.natAbs < twos 96) (hscale : scale ≤ 28) :
    ∃ d : Decimal, d.signed = n ∧ d.scale = scale := by
  refine ⟨⟨decide (n < 0), n.natAbs, scale, hn, hscale⟩, ?_, rfl⟩
  simp only [signed, decide_eq_true_eq]
  split_ifs <;> omega

/-! ### Raising the scale -/

theorem value_raiseBy (n : Nat) (d : Decimal) : (raiseBy n d).value = d.value := by
  induction n generalizing d with
  | zero => rfl
  | succ n ih =>
      rw [raiseBy]
      split_ifs with hroom
      · rw [ih]
        have hten : ((tens (d.scale + 1) : Nat) : Rat) = (tens d.scale : Nat) * 10 := by
          rw [tens_succ]
          push_cast
          rfl
        have hsigned : (⟨d.negative, d.mantissa * 10, d.scale + 1, hroom.1, hroom.2⟩ : Decimal).signed =
            d.signed * 10 := by
          simp only [signed]
          split_ifs <;> push_cast <;> ring
        rw [value, value, hsigned, hten]
        push_cast
        exact mul_div_mul_right _ _ (by norm_num)
      · rfl

@[simp]
theorem value_raise (places : Nat) (d : Decimal) : (d.raise places).value = d.value :=
  value_raiseBy _ d

/-! ### Fitting -/

/-- The number of digits that are dropped is the smallest that leaves room. -/
theorem fit_cases {negative : Bool} {magnitude scale : Nat} {d : Decimal}
    (h : fit negative magnitude scale = some d) :
    ∃ k ≤ scale, dropping negative magnitude scale k = some d ∧
      ∀ j < k, dropping negative magnitude scale j = none := by
  obtain ⟨before, k, after, hrange, hk, hnone⟩ := List.findSome?_eq_some_iff.1 h
  rw [List.range_eq_range', List.range'_eq_append_iff] at hrange
  obtain ⟨n, hn, rfl, hafter⟩ := hrange
  obtain ⟨hfirst, hroom, -⟩ := List.range'_eq_cons_iff.1 hafter.symm
  refine ⟨k, by omega, hk, fun j hj => hnone j ?_⟩
  rw [List.mem_range'_1]
  omega

/-- Dropping zeros changes nothing. -/
theorem divEven_mul (n : Nat) {unit : Nat} (h : 0 < unit) : divEven (n * unit) unit = n := by
  have hquotient : n * unit / unit = n := Nat.mul_div_cancel n h
  have hrest : n * unit % unit = 0 := Nat.mul_mod_left n unit
  rw [divEven, hquotient, hrest]
  exact if_neg (by omega)

theorem dropping_eq_none {negative : Bool} {magnitude scale k : Nat} (hscale : scale ≤ 28)
    (h : dropping negative magnitude scale k = none) : twos 96 ≤ divEven magnitude (tens k) := by
  by_contra hroom
  have hfits : divEven magnitude (tens k) < twos 96 ∧ scale - k ≤ 28 := ⟨by omega, by omega⟩
  simp [dropping, hfits] at h

/-- A magnitude that some decimal has ends in so many zeros that what is before them is small. -/
theorem zeros_of_value {magnitude scale : Nat} {x : Decimal}
    (hx : x.mantissa * tens scale = magnitude * tens x.scale) :
    ∃ n < twos 96, magnitude = n * tens (scale - x.scale) := by
  by_cases hwide : scale ≤ x.scale
  · have hsplit : tens x.scale = tens (x.scale - scale) * tens scale := by
      rw [← tens_add, Nat.sub_add_cancel hwide]
    rw [hsplit, ← Nat.mul_assoc] at hx
    have hmantissa : x.mantissa = magnitude * tens (x.scale - scale) :=
      Nat.eq_of_mul_eq_mul_right (tens_pos scale) hx
    have hle : magnitude ≤ x.mantissa := by
      rw [hmantissa]
      exact Nat.le_mul_of_pos_right _ (tens_pos _)
    refine ⟨magnitude, Nat.lt_of_le_of_lt hle x.mantissa_lt, ?_⟩
    rw [Nat.sub_eq_zero_of_le hwide, tens_zero, Nat.mul_one]
  · have hsplit : tens scale = tens (scale - x.scale) * tens x.scale := by
      rw [← tens_add, Nat.sub_add_cancel (by omega)]
    rw [hsplit, ← Nat.mul_assoc] at hx
    exact ⟨x.mantissa, x.mantissa_lt, (Nat.eq_of_mul_eq_mul_right (tens_pos _) hx).symm⟩

/-- What is fitted is exact when some decimal has the magnitude. -/
theorem mantissa_fit {negative : Bool} {magnitude scale : Nat} {d x : Decimal} (hscale : scale ≤ 28)
    (h : fit negative magnitude scale = some d)
    (hx : x.mantissa * tens scale = magnitude * tens x.scale) :
    d.negative = negative ∧ d.mantissa * tens scale = magnitude * tens d.scale := by
  obtain ⟨k, hk, hdrop, hbefore⟩ := fit_cases h
  obtain ⟨n, hn, hmagnitude⟩ := zeros_of_value hx
  -- As many digits as there are zeros would leave room, so no more than these are dropped.
  have hle : k ≤ scale - x.scale := by
    by_contra hmore
    have hbig := dropping_eq_none hscale (hbefore (scale - x.scale) (by omega))
    rw [hmagnitude, divEven_mul n (tens_pos _)] at hbig
    omega
  have hsplit : tens (scale - x.scale) = tens (scale - x.scale - k) * tens k := by
    rw [← tens_add, Nat.sub_add_cancel hle]
  have hkept : divEven magnitude (tens k) = n * tens (scale - x.scale - k) := by
    rw [hmagnitude, hsplit, ← Nat.mul_assoc, divEven_mul _ (tens_pos _)]
  simp only [dropping] at hdrop
  split at hdrop
  · cases hdrop
    refine ⟨rfl, ?_⟩
    calc
      divEven magnitude (tens k) * tens scale
          = n * tens (scale - x.scale - k) * (tens k * tens (scale - k)) := by
        rw [hkept, ← tens_add, Nat.add_sub_of_le hk]
      _ = n * (tens (scale - x.scale - k) * tens k) * tens (scale - k) := by ring
      _ = magnitude * tens (scale - k) := by rw [← hsplit, ← hmagnitude]
  · cases hdrop

/-! ### Sums and differences -/

/-- The value counted in a place that the number need not reach. -/
theorem value_at {d : Decimal} {places : Nat} (h : d.scale ≤ places) :
    d.value = ((d.signed * tens (places - d.scale) : Int) : Rat) / (tens places : Nat) := by
  have hsplit : tens places = tens d.scale * tens (places - d.scale) := by
    rw [← tens_add, Nat.add_sub_of_le h]
  rw [value, hsplit]
  push_cast
  exact (mul_div_mul_right _ _ (tens_ne_zero _)).symm

/-- The sum of the mantissas at the larger scale stands for the sum. -/
theorem value_add_eq (a b : Decimal) :
    a.value + b.value =
      ((a.signed * tens (max a.scale b.scale - a.scale) +
        b.signed * tens (max a.scale b.scale - b.scale) : Int) : Rat) /
        (tens (max a.scale b.scale) : Nat) := by
  rw [value_at (Nat.le_max_left a.scale b.scale), value_at (Nat.le_max_right a.scale b.scale)]
  push_cast
  ring

theorem value_eq_div_iff {d : Decimal} {n : Int} {scale : Nat} :
    d.value = (n : Rat) / (tens scale : Nat) ↔ d.signed * tens scale = n * tens d.scale := by
  rw [value, div_eq_div_iff (tens_ne_zero _) (tens_ne_zero _)]
  constructor
  · intro h
    exact_mod_cast h
  · intro h
    exact_mod_cast h

/-- A sum is exact when some decimal has its value. -/
theorem value_fittedSum {a b d x : Decimal} (h : fittedSum a b = some d)
    (hx : x.value = a.value + b.value) : d.value = a.value + b.value := by
  rw [fittedSum] at h
  rw [value_add_eq] at hx ⊢
  generalize a.signed * tens (max a.scale b.scale - a.scale) +
    b.signed * tens (max a.scale b.scale - b.scale) = sum at h hx ⊢
  have hmagnitude : x.mantissa * tens (max a.scale b.scale) = sum.natAbs * tens x.scale := by
    have habs := congrArg Int.natAbs (value_eq_div_iff.1 hx)
    rwa [Int.natAbs_mul, Int.natAbs_mul, natAbs_signed, Int.natAbs_natCast, Int.natAbs_natCast] at habs
  have hscale : max a.scale b.scale ≤ 28 := Nat.max_le.2 ⟨a.scale_le, b.scale_le⟩
  obtain ⟨hnegative, hmantissa⟩ := mantissa_fit hscale h hmagnitude
  have hcast : (d.mantissa : Int) * tens (max a.scale b.scale) = sum.natAbs * tens d.scale := by
    exact_mod_cast hmantissa
  rw [value_eq_div_iff, signed, hnegative]
  by_cases hsum : sum < 0
  · have hopposite : (sum.natAbs : Int) = -sum := Int.ofNat_natAbs_of_nonpos hsum.le
    rw [if_pos (by simpa using hsum), Int.neg_mul, hcast, hopposite, Int.neg_mul, Int.neg_neg]
  · have hself : (sum.natAbs : Int) = sum := Int.natAbs_of_nonneg (by omega)
    rw [if_neg (by simpa using hsum), hcast, hself]

/-- **A difference is exact exactly when some decimal has its value.** -/
theorem value_sub_iff {a b d : Decimal} (h : a.sub? b = some d) :
    d.value = a.value - b.value ↔ ∃ x : Decimal, x.value = a.value - b.value := by
  refine ⟨fun hd => ⟨d, hd⟩, ?_⟩
  rintro ⟨x, hx⟩
  rw [sub?] at h
  split_ifs at h with hb ha ha
  · cases h
    rw [b.value_eq_zero_iff.2 hb, a.value_eq_zero_iff.2 ha, sub_zero]
  · cases h
    rw [b.value_eq_zero_iff.2 hb, sub_zero]
  · cases h
    rw [a.value_eq_zero_iff.2 ha, zero_sub, value_neg]
  · rw [sub_eq_add_neg, ← value_neg] at hx ⊢
    exact value_fittedSum h hx

end Daybook.Decimal
