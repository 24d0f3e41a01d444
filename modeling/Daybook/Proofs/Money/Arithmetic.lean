import Daybook.Proofs.Decimal.Room
import Daybook.Proofs.Money.Value

/-!
Sums and differences of amounts over the whole range of a decimal. Without room before the point there is
an overflow; otherwise the result is the exact one, rounded to as many of four places as it has room for
(`Money.combines`). So it is exact whenever some decimal is, and not in general (`Money.sums_rounded`).
-/

namespace Daybook

namespace Decimal

/-- A quotient stays below an even bound up to half a unit below it. -/
theorem divEven_lt_iff {n unit bound : Nat} (h : 0 < unit) (heven : Even bound) :
    divEven n unit < bound ↔ 2 * n + unit < 2 * (bound * unit) := by
  obtain ⟨hnear, htie⟩ := divEven_near n h
  generalize divEven n unit = q at *
  rw [← Int.natCast_mul] at hnear htie
  constructor
  · intro hlt
    have hle : (q + 1) * unit ≤ bound * unit := Nat.mul_le_mul_right unit hlt
    rw [Nat.succ_mul] at hle
    -- On the bound itself there is a tie, and the quotient is odd there.
    rcases Nat.lt_or_ge (2 * n + unit) (2 * (bound * unit)) with hroom | hfull
    · exact hroom
    · have hq := htie (by omega)
      have hnext : (q + 1) * unit = bound * unit := by
        rw [Nat.succ_mul]
        omega
      obtain rfl := Nat.eq_of_mul_eq_mul_right h hnext
      exact absurd heven (Nat.not_even_iff_odd.2 hq.add_one)
  · intro hlt
    by_contra hge
    have hle : bound * unit ≤ q * unit := Nat.mul_le_mul_right unit (by omega)
    omega

/-- There is room for what is left of a magnitude exactly when its quotient is small. -/
theorem room_iff (negative : Bool) (magnitude : Nat) {scale k : Nat} (hk : k ≤ scale) :
    Room (scale - k) ((withSign negative magnitude : Rat) / (tens scale : Nat)) ↔
      divEven magnitude (tens k) < twos 96 := by
  have hsplit : ((tens scale : Nat) : Rat) = (tens (scale - k) : Nat) * (tens k : Nat) := by
    rw [← Nat.cast_mul, ← tens_add, Nat.sub_add_cancel hk]
  have habs : |(withSign negative magnitude : Rat) / (tens scale : Nat)| * (tens (scale - k) : Nat) =
      magnitude / (tens k : Nat) := by
    rw [abs_div, Nat.abs_cast, ← Int.cast_abs, ← Nat.cast_natAbs, natAbs_withSign, hsplit]
    have := tens_ne_zero (scale - k)
    field_simp
  rw [Room, habs, div_lt_iff₀ (tens_cast_pos k), divEven_lt_iff (tens_pos k) (by decide)]
  constructor
  · intro hroom
    have : ((2 * magnitude + tens k : Nat) : Rat) < (2 * (twos 96 * tens k) : Nat) := by
      push_cast
      linarith
    exact_mod_cast this
  · intro hroom
    have : ((2 * magnitude + tens k : Nat) : Rat) < (2 * (twos 96 * tens k) : Nat) := by
      exact_mod_cast hroom
    push_cast at this
    linarith

theorem divEven_lt_of_dropping {negative : Bool} {magnitude scale k : Nat} {d : Decimal}
    (h : dropping negative magnitude scale k = some d) : divEven magnitude (tens k) < twos 96 := by
  simp only [dropping] at h
  split at h
  · rename_i hsmall
    exact hsmall.1
  · cases h

/-- Without a digit dropped nothing is rounded. -/
theorem value_dropping_zero {negative : Bool} {magnitude scale : Nat} {d : Decimal}
    (h : dropping negative magnitude scale 0 = some d) :
    d.value = (withSign negative magnitude : Rat) / (tens scale : Nat) := by
  have hwhole : divEven magnitude (tens 0) = magnitude := divEven_one magnitude
  simp only [dropping, hwhole] at h
  split at h
  · cases h
    rfl
  · cases h

/-- What is fitted is rounded to as many places as there is room for. -/
theorem roundsEven_fit {negative : Bool} {magnitude scale : Nat} {d : Decimal} {x : Rat} (hscale : scale ≤ 4)
    (hx : (withSign negative magnitude : Rat) / (tens scale : Nat) = x)
    (h : fit negative magnitude scale = some d) : RoundsEven (roomiest 4 x) x d.value := by
  obtain ⟨k, hk, hdrop, hbefore⟩ := fit_cases h
  have hfull : ∀ j < k, ¬ Room (scale - j) x := by
    intro j hj hmore
    have hnone := dropping_eq_none (by omega) (hbefore j hj)
    rw [← hx, room_iff negative magnitude (by omega)] at hmore
    omega
  cases k with
  | zero =>
      rw [← hx, ← value_dropping_zero hdrop]
      exact nearest_roomiest ((scale_fit_le h).trans hscale)
  | succ k =>
      have hroom : Room (scale - (k + 1)) x := by
        rw [← hx, room_iff negative magnitude hk]
        exact divEven_lt_of_dropping hdrop
      have hplaces : roomiest 4 x = scale - (k + 1) := by
        refine roomiest_eq (by omega) hroom fun q hq hmore => ?_
        by_contra hlater
        rcases Nat.le_total q scale with hle | hle
        · have heq : q = scale - (scale - q) := by omega
          rw [heq] at hmore
          exact hfull (scale - q) (by omega) hmore
        · exact hfull 0 (by omega) (hmore.mono (by omega))
      rw [hplaces, ← hx]
      exact roundsEven_dropping hk hdrop

/-- A magnitude can be fitted exactly when there is room for it before the point. -/
theorem exists_fit_iff (negative : Bool) (magnitude : Nat) {scale : Nat} (hscale : scale ≤ 28) :
    (∃ d, fit negative magnitude scale = some d) ↔
      Room 0 ((withSign negative magnitude : Rat) / (tens scale : Nat)) := by
  constructor
  · rintro ⟨d, hd⟩
    obtain ⟨k, hk, hdrop, -⟩ := fit_cases hd
    exact ((room_iff negative magnitude hk).2 (divEven_lt_of_dropping hdrop)).mono (Nat.zero_le _)
  · intro hroom
    cases hfit : fit negative magnitude scale with
    | some d => exact ⟨d, rfl⟩
    | none =>
        -- With all digits behind the point dropped there is room.
        have hnone := List.findSome?_eq_none_iff.1 hfit scale (by simp)
        have hlast := (room_iff negative magnitude (Nat.le_refl scale)).1
          (by rwa [Nat.sub_self])
        have := dropping_eq_none hscale hnone
        omega

/-! ### Sums and differences -/

/-- What a sum or a difference comes to, where `x` is the exact result: nothing without room before the
point, and otherwise it is rounded to the room there is, which is exact whenever some decimal is. -/
structure Fits (x : Rat) (r : Option Decimal) : Prop where
  overflow : ¬ Room 0 x → r = none
  rounded : Room 0 x → ∃ d, r = some d ∧ RoundsEven (roomiest 4 x) x d.value ∧
    (d.value = x ↔ ∃ y : Decimal, y.value = x)

theorem fits_self {d : Decimal} (h : d.scale ≤ 4) : Fits d.value (some d) :=
  ⟨fun hfull => absurd (d.room_scale.mono (Nat.zero_le _)) hfull,
    fun _ => ⟨d, rfl, nearest_roomiest h, fun hd => ⟨d, hd⟩, fun _ => rfl⟩⟩

theorem fits_fittedSum {a b : Decimal} (ha : a.scale ≤ 4) (hb : b.scale ≤ 4) :
    Fits (a.value + b.value) (fittedSum a b) := by
  have hscale : max a.scale b.scale ≤ 4 := Nat.max_le.2 ⟨ha, hb⟩
  have hexact : ∀ d, fittedSum a b = some d →
      (d.value = a.value + b.value ↔ ∃ y : Decimal, y.value = a.value + b.value) :=
    fun d hd => ⟨fun h => ⟨d, h⟩, fun ⟨_, hy⟩ => value_fittedSum hd hy⟩
  rw [fittedSum] at hexact ⊢
  rw [value_add_eq] at hexact ⊢
  generalize a.signed * tens (max a.scale b.scale - a.scale) +
    b.signed * tens (max a.scale b.scale - b.scale) = sum at hexact ⊢
  have hiff := exists_fit_iff (decide (sum < 0)) sum.natAbs
    (hscale.trans (by decide))
  rw [withSign_decide] at hiff
  refine ⟨fun hfull => Option.eq_none_iff_forall_ne_some.2 fun d hd => hfull (hiff.1 ⟨d, hd⟩),
    fun hroom => ?_⟩
  obtain ⟨d, hd⟩ := hiff.2 hroom
  exact ⟨d, hd, roundsEven_fit hscale (by rw [withSign_decide]) hd, hexact d hd⟩

theorem fits_add {a b : Decimal} (ha : a.scale ≤ 4) (hb : b.scale ≤ 4) :
    Fits (a.value + b.value) (a.add? b) := by
  rw [add?]
  split_ifs with hazero hbzero
  · rw [a.value_eq_zero_iff.2 hazero, zero_add]
    exact fits_self hb
  · rw [b.value_eq_zero_iff.2 hbzero, add_zero]
    exact fits_self ha
  · exact fits_fittedSum ha hb

theorem fits_sub {a b : Decimal} (ha : a.scale ≤ 4) (hb : b.scale ≤ 4) :
    Fits (a.value - b.value) (a.sub? b) := by
  rw [sub?]
  split_ifs with hbzero hazero hazero
  · rw [a.value_eq_zero_iff.2 hazero, b.value_eq_zero_iff.2 hbzero, sub_zero,
      ← b.value_eq_zero_iff.2 hbzero]
    exact fits_self hb
  · rw [b.value_eq_zero_iff.2 hbzero, sub_zero]
    exact fits_self ha
  · rw [a.value_eq_zero_iff.2 hazero, zero_sub, ← value_neg]
    exact fits_self hb
  · rw [sub_eq_add_neg, ← value_neg]
    exact fits_fittedSum ha hb

end Decimal

namespace Money

/-- What two amounts come to under a sign, where `x` is the exact result. -/
structure Combines (sign : Char) (a b : Money) (x : Rat) (r : Except MoneyError Money) : Prop where
  mismatch : a.currency ≠ b.currency → r = .error (.currencyMismatch a.currency b.currency)
  overflow : a.currency = b.currency → ¬ Room 0 x → r = .error (.overflow a.amount sign b.amount)
  rounded : a.currency = b.currency → Room 0 x → ∃ c, r = .ok c ∧ c.currency = a.currency ∧
    RoundsEven (roomiest 4 x) x c.value ∧ (c.value = x ↔ ∃ y : Decimal, y.value = x)

theorem combines_of_fits {sign : Char} {a b : Money} {x : Rat} {d? : Option Decimal}
    {r : Except MoneyError Money} {h : ∀ d, d? = some d → d.scale ≤ 4} (hfits : Decimal.Fits x d?)
    (hr : r = if a.currency = b.currency then
      ofResult (.overflow a.amount sign b.amount) a.currency d? h
      else .error (.currencyMismatch a.currency b.currency)) : Combines sign a b x r := by
  refine ⟨fun hne => ?_, fun heq hfull => ?_, fun heq hroom => ?_⟩
  · rw [hr, if_neg hne]
  · have hnone := hfits.overflow hfull
    subst hnone
    rw [hr, if_pos heq]
    rfl
  · obtain ⟨d, hd, hrounded, hexact⟩ := hfits.rounded hroom
    refine ⟨settle d a.currency (h d hd), ?_, rfl, ?_⟩
    · rw [hr, if_pos heq]
      exact ofResult_some hd
    · have hvalue : (settle d a.currency (h d hd)).value = d.value := Decimal.value_raise 4 d
      rw [hvalue]
      exact ⟨hrounded, hexact⟩

theorem add_combines (a b : Money) : Combines '+' a b (a.value + b.value) (a.add b) :=
  combines_of_fits (Decimal.fits_add a.scale_le b.scale_le) rfl

theorem sub_combines (a b : Money) : Combines '-' a b (a.value - b.value) (a.sub b) :=
  combines_of_fits (Decimal.fits_sub a.scale_le b.scale_le) rfl

/-- What they come to is in their currency, and it is the exact result rounded to the room there is. -/
theorem Combines.of_ok {sign : Char} {a b c : Money} {x : Rat} {r : Except MoneyError Money}
    (h : Combines sign a b x r) (hr : r = .ok c) :
    b.currency = a.currency ∧ c.currency = a.currency ∧ Room 0 x ∧
      RoundsEven (roomiest 4 x) x c.value := by
  have hcurrency : a.currency = b.currency := by
    by_contra hne
    cases (h.mismatch hne).symm.trans hr
  have hroom : Room 0 x := by
    by_contra hfull
    cases (h.overflow hcurrency hfull).symm.trans hr
  obtain ⟨c', hc', hsame, hrounded, -⟩ := h.rounded hcurrency hroom
  cases hc'.symm.trans hr
  exact ⟨hcurrency.symm, hsame, hroom, hrounded⟩

/-- Where some decimal has the exact result, that is what they come to. -/
theorem Combines.exact {sign : Char} {a b : Money} {x : Rat} {r : Except MoneyError Money}
    (h : Combines sign a b x r) (hcurrency : a.currency = b.currency) {y : Decimal} (hy : y.value = x) :
    ∃ c, r = .ok c ∧ c.currency = a.currency ∧ c.value = x := by
  have hroom : Room 0 x := hy ▸ y.room_scale.mono (Nat.zero_le _)
  obtain ⟨c, hc, hsame, -, hexact⟩ := h.rounded hcurrency hroom
  exact ⟨c, hc, hsame, hexact.2 ⟨y, hy⟩⟩

/-- **Sums and differences are the exact results, rounded to the digits there is room for.** Amounts of
two currencies are refused, and so is a result whose digits before the point have no room. Any other is
given, half to even at as many of four places as have room, and it is exact whenever some decimal is. -/
theorem combines (a b : Money) :
    Combines '+' a b (a.value + b.value) (a.add b) ∧ Combines '-' a b (a.value - b.value) (a.sub b) :=
  ⟨add_combines a b, sub_combines a b⟩

/-- The largest amount. -/
def largest : Money :=
  new ((Decimal.ofNat? (twos 96 - 1)).get (by decide)) .brl

/-- The smallest amount above zero. -/
def smallest : Money :=
  new ((Decimal.ofParts? false 1 4).get (by decide)) .brl

/-- **A sum and a difference that are rounded without an error.** -/
theorem sums_rounded :
    (∃ c, largest.add smallest = .ok c ∧ c.value ≠ largest.value + smallest.value) ∧
      ∃ c, largest.sub smallest = .ok c ∧ c.value ≠ largest.value - smallest.value :=
  ⟨⟨largest, by decide +kernel, by decide +kernel⟩, ⟨largest, by decide +kernel, by decide +kernel⟩⟩

end Money
end Daybook
