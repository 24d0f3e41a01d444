import Daybook.Proofs.Decimal.Rounding
import Daybook.Proofs.Money.Value

/-!
One form for each amount. A settled decimal is fixed by its value but for the sign of zero
(`Decimal.eq_of_value`), and sums of numbers whose zeros have no sign have none either, so amounts that
were added up from zero are equal as soon as their values are (`Money.eq_of_value`).
-/

namespace Daybook

namespace Decimal

/-- Zero has no sign. -/
def Plain (d : Decimal) : Prop :=
  d.isZero = true → d.negative = false

theorem plain_of_signed {d : Decimal} (h : d.signed ≠ 0) : d.Plain := by
  intro hzero
  have habs := d.natAbs_signed
  rw [beq_iff_eq.1 hzero] at habs
  omega

/-- The sign and the magnitude are fixed by the signed mantissa. -/
theorem eq_of_signed {a b : Decimal} (ha : a.Plain) (hb : b.Plain) (hscale : a.scale = b.scale)
    (hsigned : a.signed = b.signed) : a = b := by
  have hmantissa : a.mantissa = b.mantissa := by
    rw [← a.natAbs_signed, ← b.natAbs_signed, hsigned]
  cases a with
  | mk na ma sa _ _ =>
      cases b with
      | mk nb mb sb _ _ =>
          obtain rfl : ma = mb := hmantissa
          obtain rfl : sa = sb := hscale
          cases na <;> cases nb <;> simp_all [Plain, isZero, signed]

/-- Of two settled decimals with one value neither has more places. -/
theorem scale_le_of_value {places : Nat} {a b : Decimal} (ha : Settled places a) (hb : b.scale ≤ places)
    (h : a.value = b.value) : b.scale ≤ a.scale := by
  by_contra hless
  have hfull := ha.2 (by omega)
  have hequal : a.signed * tens b.scale = b.signed * tens a.scale := by
    have := (same_iff a b).2 h
    rwa [same, beq_iff_eq] at this
  have hmagnitude : a.mantissa * tens b.scale = b.mantissa * tens a.scale := by
    have habs := congrArg Int.natAbs hequal
    rwa [Int.natAbs_mul, Int.natAbs_mul, natAbs_signed, natAbs_signed, Int.natAbs_natCast,
      Int.natAbs_natCast] at habs
  have hsplit : tens b.scale = tens (b.scale - a.scale) * tens a.scale := by
    rw [← tens_add, Nat.sub_add_cancel (by omega)]
  rw [hsplit, ← Nat.mul_assoc] at hmagnitude
  have hmantissa : a.mantissa * tens (b.scale - a.scale) = b.mantissa :=
    Nat.eq_of_mul_eq_mul_right (tens_pos _) hmagnitude
  have hten : a.mantissa * 10 ≤ b.mantissa := by
    rw [← hmantissa]
    exact Nat.mul_le_mul_left _ (ten_le_tens (by omega))
  have := b.mantissa_lt
  omega

/-- A settled decimal is fixed by its value, if zero has no sign. -/
theorem eq_of_value {places : Nat} {a b : Decimal} (ha : Settled places a) (hb : Settled places b)
    (hpa : a.Plain) (hpb : b.Plain) (h : a.value = b.value) : a = b := by
  have hscale : a.scale = b.scale :=
    Nat.le_antisymm (scale_le_of_value hb ha.1 h.symm) (scale_le_of_value ha hb.1 h)
  refine eq_of_signed hpa hpb hscale ?_
  have hequal := (same_iff a b).2 h
  rw [same, beq_iff_eq, hscale] at hequal
  exact Int.eq_of_mul_eq_mul_right (by exact_mod_cast (tens_pos b.scale).ne') hequal

/-! ### Sums -/

theorem plain_raiseBy (n : Nat) {d : Decimal} (h : d.Plain) : (raiseBy n d).Plain := by
  induction n generalizing d with
  | zero => exact h
  | succ n ih =>
      rw [raiseBy]
      split_ifs
      · refine ih fun hzero => h ?_
        simp only [isZero, beq_iff_eq] at hzero ⊢
        omega
      · exact h

/-- What has to be dropped leaves more than zero. -/
theorem divEven_pos {n k : Nat} (h : twos 96 ≤ divEven n (tens k)) : 0 < divEven n (tens (k + 1)) := by
  have hkept := (divEven_near n (tens_pos k)).1
  have hnext := (divEven_near n (tens_pos (k + 1))).1
  have hbig : twos 96 * tens k ≤ divEven n (tens k) * tens k := Nat.mul_le_mul_right _ h
  have hsmall : 20 * tens k ≤ twos 96 * tens k := Nat.mul_le_mul_right _ (by decide)
  have hunit := tens_pos k
  rw [← Int.natCast_mul] at hkept
  by_contra hzero
  rw [Nat.eq_zero_of_not_pos hzero, tens_succ] at hnext
  simp only [Int.zero_mul, Nat.cast_zero] at hnext
  omega

theorem plain_fittedSum {a b d : Decimal} (h : fittedSum a b = some d) : d.Plain := by
  rw [fittedSum] at h
  generalize a.signed * tens (max a.scale b.scale - a.scale) +
    b.signed * tens (max a.scale b.scale - b.scale) = sum at h
  have hscale : max a.scale b.scale ≤ 28 := Nat.max_le.2 ⟨a.scale_le, b.scale_le⟩
  obtain ⟨k, -, hdrop, hbefore⟩ := fit_cases h
  intro hzero
  have hkept : divEven sum.natAbs (tens k) = 0 ∧ d.negative = decide (sum < 0) := by
    simp only [dropping] at hdrop
    split at hdrop
    · cases hdrop
      exact ⟨beq_iff_eq.1 hzero, rfl⟩
    · cases hdrop
  cases k with
  | zero =>
      have hwhole : divEven sum.natAbs (tens 0) = sum.natAbs := divEven_one _
      rw [hkept.2, decide_eq_false_iff_not]
      omega
  | succ k =>
      have := divEven_pos (dropping_eq_none hscale (hbefore k (Nat.lt_succ_self k)))
      omega

theorem plain_add {a b d : Decimal} (ha : a.Plain) (hb : b.Plain) (h : a.add? b = some d) : d.Plain := by
  rw [add?] at h
  split_ifs at h
  · cases h
    exact hb
  · cases h
    exact ha
  · exact plain_fittedSum h

theorem plain_sub {a b d : Decimal} (ha : a.Plain) (hb : b.Plain) (h : a.sub? b = some d) : d.Plain := by
  rw [sub?] at h
  split_ifs at h with hbzero
  · cases h
    exact hb
  · cases h
    exact ha
  · cases h
    exact fun hzero => absurd hzero hbzero
  · exact plain_fittedSum h

/-! ### Rounding -/

theorem negative_cut (places : Nat) (d : Decimal) : (d.cut places).negative = d.negative := by
  rw [cut]
  split <;> rfl

/-- A number that is rounded to zero has lost its sign. -/
theorem plain_round (places : Nat) {d : Decimal} (hd : d.Plain) : (d.round places).Plain := by
  intro hzero
  have hcut : (d.cut places).mantissa = 0 := beq_iff_eq.1 hzero
  by_cases hm : d.mantissa = 0
  · simp [round, negative_cut, hd (beq_iff_eq.2 hm)]
  · simp [round, hcut, hm]

end Decimal

namespace Money

variable {a b m : Money} {c : Currency} {ms : List Money}

/-- Amounts of one currency are equal as soon as their values are, if zero has no sign. -/
theorem eq_of_value (ha : a.amount.Plain) (hb : b.amount.Plain) (hcurrency : a.currency = b.currency)
    (h : a.value = b.value) : a = b :=
  ext (Decimal.eq_of_value a.settled b.settled ha hb h) hcurrency

theorem plain_zero (c : Currency) : (zero c).amount.Plain :=
  fun _ => rfl

theorem plain_new {d : Decimal} (hd : d.Plain) (c : Currency) : (new d c).amount.Plain :=
  Decimal.plain_raiseBy _ (Decimal.plain_round 4 hd)

theorem plain_abs (m : Money) : m.abs.amount.Plain :=
  fun _ => rfl

theorem plain_ofResult {error : MoneyError} {d? : Option Decimal} {hscale : ∀ d, d? = some d → d.scale ≤ 4}
    (hd : ∀ d, d? = some d → d.Plain) (h : ofResult error c d? hscale = .ok m) : m.amount.Plain := by
  cases d? with
  | none => cases h
  | some d =>
      cases h
      exact Decimal.plain_raiseBy _ (hd d rfl)

theorem plain_add (ha : a.amount.Plain) (hb : b.amount.Plain) (h : a.add b = .ok m) : m.amount.Plain := by
  rw [add] at h
  split_ifs at h
  exact plain_ofResult (fun _ => Decimal.plain_add ha hb) h

theorem plain_sub (ha : a.amount.Plain) (hb : b.amount.Plain) (h : a.sub b = .ok m) : m.amount.Plain := by
  rw [sub] at h
  split_ifs at h
  exact plain_ofResult (fun _ => Decimal.plain_sub ha hb) h

theorem plain_foldlM (ha : a.amount.Plain) (hms : ∀ m ∈ ms, m.amount.Plain)
    (h : ms.foldlM add a = .ok b) : b.amount.Plain := by
  induction ms generalizing a with
  | nil =>
      cases h
      exact ha
  | cons m ms ih =>
      obtain ⟨hm, hrest⟩ := List.forall_mem_cons.1 hms
      rw [List.foldlM_cons] at h
      cases hadd : a.add m with
      | error e =>
          rw [hadd] at h
          cases h
      | ok s =>
          rw [hadd] at h
          exact ih (plain_add ha hm hadd) hrest h

theorem plain_sum (hms : ∀ m ∈ ms, m.amount.Plain) (h : sum c ms = .ok b) : b.amount.Plain :=
  plain_foldlM (plain_zero c) hms h

end Money
end Daybook
