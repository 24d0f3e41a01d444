import Daybook.Proofs.Money.Value
import Mathlib.Algebra.BigOperators.Group.List.Basic
import Mathlib.Algebra.Order.Field.Basic

/-!
Adding amounts up. As long as the sum of two amounts of four places has room in a decimal, no digit of
it is dropped (`Money.add_of_room`). Amounts that fit the books are below 10¹⁹ of the last place, so
there is room for the sum of 7 922 816 251 of them in any order, and it is exact (`Money.sum_exact`).
-/

namespace Daybook

/-- Nothing is dropped from what has room. -/
theorem Decimal.fit_of_lt {negative : Bool} {magnitude scale : Nat} (hroom : magnitude < twos 96)
    (hscale : scale ≤ 28) :
    fit negative magnitude scale = some ⟨negative, magnitude, scale, hroom, hscale⟩ := by
  have hwhole : divEven magnitude (tens 0) = magnitude := divEven_one magnitude
  have hkept : dropping negative magnitude scale 0 =
      some ⟨negative, magnitude, scale, hroom, hscale⟩ := by
    simp only [dropping, hwhole, Nat.sub_zero]
    rw [dif_pos ⟨hroom, hscale⟩]
  rw [fit, List.range_succ_eq_map, List.findSome?_cons, hkept]

theorem Decimal.signed_mk (n : Int) {scale : Nat} (hn : n.natAbs < twos 96) (hscale : scale ≤ 28) :
    signed ⟨decide (n < 0), n.natAbs, scale, hn, hscale⟩ = n := by
  simp only [signed, decide_eq_true_eq]
  split_ifs <;> omega

/-- A sum that has room at the scale of both numbers is formed at that scale. -/
theorem Decimal.add_of_room {a b : Decimal} (hscale : a.scale = b.scale)
    (hroom : (a.signed + b.signed).natAbs < twos 96) :
    ∃ d, a.add? b = some d ∧ d.signed = a.signed + b.signed ∧ d.scale = a.scale := by
  rw [add?]
  split_ifs with ha hb
  · have hzero := a.natAbs_signed
    rw [beq_iff_eq.1 ha] at hzero
    exact ⟨b, rfl, by omega, hscale.symm⟩
  · have hzero := b.natAbs_signed
    rw [beq_iff_eq.1 hb] at hzero
    exact ⟨a, rfl, by omega, rfl⟩
  · have hmax : max a.scale b.scale = a.scale := by omega
    have hsum : a.signed * tens (a.scale - a.scale) + b.signed * tens (a.scale - b.scale) =
        a.signed + b.signed := by
      rw [hscale, Nat.sub_self, tens_zero]
      omega
    refine ⟨_, ?_, signed_mk _ hroom a.scale_le, rfl⟩
    simp only [fittedSum, hmax]
    rw [hsum]
    exact fit_of_lt hroom a.scale_le

namespace Money

/-- An amount counted in its last place. -/
def units (m : Money) : Int :=
  m.amount.signed

/-- An amount of four places that counts so many units. -/
structure Counts (m : Money) (c : Currency) (n : Int) : Prop where
  scale : m.amount.scale = 4
  units_eq : m.units = n
  currency_eq : m.currency = c

variable {a b m : Money} {c : Currency} {n k : Int} {ms : List Money}

theorem Counts.value (h : m.Counts c n) : m.value = n / 10000 := by
  rw [Money.value, Decimal.value, h.scale, ← h.units_eq, units]
  norm_num [tens]

theorem counts_zero (c : Currency) : (zero c).Counts c 0 :=
  ⟨rfl, rfl, rfl⟩

/-- A sum that has room is exact. -/
theorem Counts.add (ha : a.Counts c n) (hb : b.Counts c k) (hroom : (n + k).natAbs < twos 96) :
    ∃ s, a.add b = .ok s ∧ s.Counts c (n + k) := by
  rw [← ha.units_eq, ← hb.units_eq] at hroom
  obtain ⟨d, hd, hsigned, hscale⟩ := Decimal.add_of_room (ha.scale.trans hb.scale.symm) hroom
  rw [ha.scale] at hscale
  have hsettled : d.raise 4 = d := by
    rw [Decimal.raise, hscale]
    rfl
  refine ⟨settle d a.currency hscale.le, ?_, ?_, ?_, ha.currency_eq⟩
  · rw [Money.add, if_pos (ha.currency_eq.trans hb.currency_eq.symm)]
    exact ofResult_some hd
  · exact (congrArg Decimal.scale hsettled).trans hscale
  · rw [← ha.units_eq, ← hb.units_eq]
    exact (congrArg Decimal.signed hsettled).trans hsigned

/-- A difference that has room is that of some decimal. -/
theorem Counts.exists_sub {c' : Currency} (ha : a.Counts c n) (hb : b.Counts c' k)
    (hroom : (n - k).natAbs < twos 96) : ∃ x : Decimal, x.value = a.value - b.value := by
  obtain ⟨x, hsigned, hscale⟩ := Decimal.exists_signed hroom (show 4 ≤ 28 by decide)
  refine ⟨x, ?_⟩
  rw [ha.value, hb.value, Decimal.value, hsigned, hscale]
  norm_num [tens]
  ring

/-- A difference that has room is exact, too. -/
theorem Counts.value_sub {c' : Currency} (ha : a.Counts c n) (hb : b.Counts c' k)
    (hroom : (n - k).natAbs < twos 96) {s : Money} (h : a.sub b = .ok s) :
    s.value = a.value - b.value :=
  (value_sub_iff h).2 (ha.exists_sub hb hroom)

/-! ### Amounts that fit the books -/

theorem counts_of_isStorable (h : m.isStorable = true) :
    m.Counts m.currency m.units ∧ m.units.natAbs < tens 19 := by
  refine ⟨⟨scale_of_isStorable h, rfl, rfl⟩, ?_⟩
  rw [units, Decimal.natAbs_signed]
  exact mantissa_lt_of_isStorable h

/-- An amount fits the books exactly when it is below 10¹⁵ in magnitude. -/
theorem isStorable_iff (m : Money) : m.isStorable = true ↔ |m.value| < 10 ^ 15 := by
  have habs : |m.value| = (m.amount.mantissa : Rat) / (tens m.amount.scale : Nat) := by
    rw [value, Decimal.value, abs_div, Nat.abs_cast, ← Decimal.natAbs_signed, Nat.cast_natAbs,
      Int.cast_abs]
  have htens : ((tens 15 : Nat) : Rat) = 10 ^ 15 := by norm_num [tens]
  rw [habs, div_lt_iff₀ (Decimal.tens_cast_pos _), ← htens, isStorable, decide_eq_true_iff]
  exact_mod_cast Iff.rfl

/-! ### Sums -/

/-- Only amounts of one currency are added up. -/
theorem currency_of_foldlM (h : ms.foldlM Money.add a = .ok b) :
    ∀ m ∈ ms, m.currency = a.currency := by
  induction ms generalizing a with
  | nil => exact fun _ hm => absurd hm List.not_mem_nil
  | cons m ms ih =>
      rw [List.foldlM_cons] at h
      cases hadd : a.add m with
      | error e =>
          rw [hadd] at h
          cases h
      | ok s =>
          rw [hadd] at h
          have hrest := ih h
          rw [Money.add] at hadd
          split_ifs at hadd with hcurrency
          obtain ⟨d, -, -, hsum⟩ := ofResult_eq_ok hadd
          rw [hsum] at hrest
          exact List.forall_mem_cons.2 ⟨hcurrency.symm, hrest⟩

theorem currency_of_sum (h : sum c ms = .ok b) : ∀ m ∈ ms, m.currency = c :=
  currency_of_foldlM h

/-- From one amount to all of them, as long as there is room for every sum on the way. -/
theorem Counts.foldlM (ha : a.Counts c n) (hms : ∀ m ∈ ms, m.currency = c ∧ m.isStorable = true)
    (hroom : n.natAbs + ms.length * tens 19 ≤ twos 96) (hn : n.natAbs < twos 96) :
    ∃ s, ms.foldlM Money.add a = .ok s ∧ s.Counts c (n + (ms.map units).sum) ∧
      (n + (ms.map units).sum).natAbs ≤ n.natAbs + ms.length * tens 19 := by
  induction ms generalizing a n with
  | nil => exact ⟨a, rfl, by simpa using ha, by simp⟩
  | cons m ms ih =>
      obtain ⟨⟨hcurrency, hstorable⟩, hrest⟩ := List.forall_mem_cons.1 hms
      obtain ⟨hm, hsmall⟩ := counts_of_isStorable hstorable
      rw [hcurrency] at hm
      have hstep : (n + m.units).natAbs < n.natAbs + tens 19 := by omega
      have hlength : (m :: ms).length * tens 19 = ms.length * tens 19 + tens 19 := by
        rw [List.length_cons, Nat.succ_mul]
      rw [hlength] at hroom ⊢
      obtain ⟨s, hs, hcounts⟩ := ha.add hm (by omega)
      obtain ⟨t, ht, htotal, hbound⟩ := ih hcounts hrest (by omega) (by omega)
      have hsum : n + ((m :: ms).map units).sum =
          n + m.units + (ms.map units).sum := by
        rw [List.map_cons, List.sum_cons, Int.add_assoc]
      rw [List.foldlM_cons, hs, hsum]
      exact ⟨t, ht, htotal, by omega⟩

/-- What all amounts count comes to their exact sum. -/
theorem sum_value (hms : ∀ m ∈ ms, m.isStorable = true) :
    (ms.map value).sum = ((ms.map units).sum : Int) / 10000 := by
  induction ms with
  | nil => norm_num
  | cons m ms ih =>
      obtain ⟨hm, hrest⟩ := List.forall_mem_cons.1 hms
      rw [List.map_cons, List.sum_cons, ih hrest, (counts_of_isStorable hm).1.value, List.map_cons,
        List.sum_cons]
      push_cast
      ring

/-- **Sums of amounts that fit the books are exact**, up to 7 922 816 251 of them. -/
theorem sum_exact (hms : ∀ m ∈ ms, m.currency = c ∧ m.isStorable = true)
    (hroom : ms.length * tens 19 ≤ twos 96) :
    ∃ s, sum c ms = .ok s ∧ s.Counts c (ms.map units).sum ∧
      (ms.map units).sum.natAbs ≤ ms.length * tens 19 ∧
      s.value = (ms.map value).sum := by
  obtain ⟨s, hs, hcounts, hbound⟩ := (counts_zero c).foldlM hms (by simpa using hroom) (by decide)
  rw [Int.zero_add] at hcounts hbound
  refine ⟨s, hs, hcounts, by simpa using hbound, ?_⟩
  rw [hcounts.value, sum_value fun m hm => (hms m hm).2]

end Money
end Daybook
