import Daybook.Entry
import Daybook.Proofs.Money.Canonical
import Daybook.Proofs.Money.Sum

/-!
Balances as sums of entries. What up to 7 900 000 000 entries that fit the books come to is their exact
sum (`Entry.exists_total`), in the one form that amounts have, so it is the same for every order of the
entries and for every way of adding up two parts of them (`Entry.total_exact`).
-/

namespace Daybook.Entry

variable {c : Currency} {es : List Entry}

/-- No entry is zero, so none is zero with a sign. -/
theorem plain_amount (e : Entry) : e.amount.amount.Plain := by
  apply Decimal.plain_of_signed
  have hcarries := e.carries
  cases hdirection : e.direction <;> rw [hdirection] at hcarries <;>
    simp only [Direction.Carries] at hcarries <;> omega

/-- The entries are in the currency, and each fits the books. -/
def Bookable (c : Currency) (es : List Entry) : Prop :=
  ∀ e ∈ es, e.amount.currency = c ∧ e.amount.isStorable = true

instance (c : Currency) (es : List Entry) : Decidable (Bookable c es) :=
  inferInstanceAs (Decidable (∀ e ∈ es, _))

/-- The amount is what the entries come to: their exact sum with four places, and no sign on zero. -/
structure ComesTo (c : Currency) (es : List Entry) (s : Money) : Prop where
  value : s.value = (es.map fun e => e.amount.value).sum
  currency : s.currency = c
  scale : s.amount.scale = 4
  plain : s.amount.Plain

theorem ComesTo.counts {s : Money} (h : ComesTo c es s) : s.Counts c s.units :=
  ⟨h.scale, rfl, h.currency⟩

theorem ComesTo.unique {s t : Money} {es' : List Entry} (hs : ComesTo c es s) (ht : ComesTo c es' t)
    (h : (es.map fun e => e.amount.value).sum = (es'.map fun e => e.amount.value).sum) : s = t :=
  Money.eq_of_value hs.plain ht.plain (hs.currency.trans ht.currency.symm)
    (by rw [hs.value, ht.value, h])

/-- **What entries come to is their exact sum.** -/
theorem exists_total (hes : Bookable c es) (hfew : es.length ≤ 7900000000) :
    ∃ s, total c es = .ok s ∧ ComesTo c es s := by
  have hamounts : ∀ m ∈ es.map (·.amount), m.currency = c ∧ m.isStorable = true := by
    intro m hm
    obtain ⟨e, he, rfl⟩ := List.mem_map.1 hm
    exact hes e he
  have hroom : (es.map (·.amount)).length * tens 19 ≤ twos 96 := by
    rw [List.length_map]
    exact (Nat.mul_le_mul_right _ hfew).trans (by decide)
  obtain ⟨s, hs, hcounts, -, hvalue⟩ := Money.sum_exact hamounts hroom
  refine ⟨s, hs, by rw [hvalue, List.map_map]; rfl, hcounts.currency_eq, hcounts.scale, ?_⟩
  refine Money.plain_sum (fun m hm => ?_) hs
  obtain ⟨e, -, rfl⟩ := List.mem_map.1 hm
  exact e.plain_amount

theorem Bookable.perm {es' : List Entry} (hes : Bookable c es) (h : es'.Perm es) : Bookable c es' :=
  fun e he => hes e (h.mem_iff.1 he)

/-- The order of the entries does not matter. -/
theorem total_perm (hes : Bookable c es) (hfew : es.length ≤ 7900000000) {es' : List Entry}
    (h : es'.Perm es) : total c es' = total c es := by
  obtain ⟨s, hs, hcomes⟩ := exists_total hes hfew
  obtain ⟨t, ht, hcomes'⟩ := exists_total (hes.perm h) (by rwa [h.length_eq])
  rw [hs, ht, hcomes'.unique hcomes (h.map _).sum_eq]

/-- What two parts come to adds up to what the whole comes to. -/
theorem add_of_comesTo {l r : List Entry} {a b s : Money} (ha : ComesTo c l a) (hb : ComesTo c r b)
    (hs : ComesTo c (l ++ r) s) : a.add b = .ok s := by
  have hvalue : s.value = a.value + b.value := by
    rw [hs.value, ha.value, hb.value, List.map_append, List.sum_append]
  have hunits : s.units = a.units + b.units := by
    rw [hs.counts.value, ha.counts.value, hb.counts.value] at hvalue
    have : (s.units : Rat) = a.units + b.units := by linarith
    exact_mod_cast this
  -- The whole is an amount, so there is room for the sum.
  have hroom : (a.units + b.units).natAbs < twos 96 := by
    rw [← hunits, Money.units, Decimal.natAbs_signed]
    exact s.amount.mantissa_lt
  obtain ⟨t, ht, hcounts⟩ := ha.counts.add hb.counts hroom
  have hplain := Money.plain_add ha.plain hb.plain ht
  rw [ht, Money.eq_of_value hplain hs.plain (hcounts.currency_eq.trans hs.currency.symm)]
  rw [hcounts.value, hs.counts.value, hunits]

theorem total_append {l r : List Entry} (hes : Bookable c (l ++ r))
    (hfew : (l ++ r).length ≤ 7900000000) :
    ∃ a b, total c l = .ok a ∧ total c r = .ok b ∧ ComesTo c l a ∧ ComesTo c r b ∧
      a.add b = total c (l ++ r) := by
  have hlength := @List.length_append _ l r
  obtain ⟨a, ha, hcomesa⟩ := exists_total (fun e he => hes e (List.mem_append_left r he)) (by omega)
  obtain ⟨b, hb, hcomesb⟩ := exists_total (fun e he => hes e (List.mem_append_right l he)) (by omega)
  obtain ⟨s, hs, hcomes⟩ := exists_total hes hfew
  exact ⟨a, b, ha, hb, hcomesa, hcomesb, by rw [hs, add_of_comesTo hcomesa hcomesb hcomes]⟩

/-- The entries up to a moment are those of the early ones, in some order. -/
theorem upTo_perm {cutoff : Time} {early late : List Entry} (h : (early ++ late).Perm es)
    (hearly : ∀ e ∈ early, e.createdAt.le cutoff = true)
    (hlate : ∀ e ∈ late, e.createdAt.le cutoff = false) : (upTo cutoff es).Perm early := by
  have hsplit : upTo cutoff (early ++ late) = early := by
    rw [upTo, List.filter_append, List.filter_eq_self.2 hearly,
      List.filter_eq_nil_iff.2 fun e he => by simp [hlate e he], List.append_nil]
  exact (h.symm.filter _).trans (List.Perm.of_eq hsplit)

/-- **Balances are exact, in any order and in any parts.** Of up to 7 900 000 000 entries that fit the
books, in one currency, the total is their exact sum with four places and no sign on zero, and so is the
total of any part of them, among these each total on the way. Another order gives the same amount, what
two parts come to adds up to it, and the entries up to a moment come to what the early ones do. -/
theorem total_exact (c : Currency) (es : List Entry) (hes : Bookable c es)
    (hfew : es.length ≤ 7900000000) :
    ∃ s, total c es = .ok s ∧ ComesTo c es s ∧
      (∀ es', es'.Perm es → total c es' = .ok s) ∧
      (∀ l r, (l ++ r).Perm es → ∃ a b, total c l = .ok a ∧ total c r = .ok b ∧
        ComesTo c l a ∧ ComesTo c r b ∧ a.add b = .ok s) ∧
      ∀ cutoff early late, (early ++ late).Perm es → (∀ e ∈ early, e.createdAt.le cutoff = true) →
        (∀ e ∈ late, e.createdAt.le cutoff = false) → total c (upTo cutoff es) = total c early := by
  obtain ⟨s, hs, hcomes⟩ := exists_total hes hfew
  refine ⟨s, hs, hcomes, fun es' h => ?_, fun l r h => ?_, fun cutoff early late h hearly hlate => ?_⟩
  · rw [total_perm hes hfew h, hs]
  · obtain ⟨a, b, ha, hb, hcomesa, hcomesb, hadd⟩ :=
      total_append (hes.perm h) (by rwa [h.length_eq])
    exact ⟨a, b, ha, hb, hcomesa, hcomesb, by rw [hadd, total_perm hes hfew h, hs]⟩
  · have hlength := h.length_eq
    rw [List.length_append] at hlength
    exact total_perm (fun e he => hes e (h.mem_iff.1 (List.mem_append_left late he))) (by omega)
      (upTo_perm h hearly hlate)

/-- Five paid in. -/
def paidIn : Entry :=
  ⟨⟨⟨1⟩⟩, ⟨⟨1⟩⟩, ⟨⟨1⟩⟩, Money.new ((Decimal.ofNat? 5).get (by decide)) .brl, .credit, .deposit,
    "api", .ofNanos 0, by decide⟩

/-- And five paid out later. -/
def paidOut : Entry :=
  ⟨⟨⟨2⟩⟩, ⟨⟨2⟩⟩, ⟨⟨1⟩⟩, paidIn.amount.negate, .debit, .withdrawal, "api", .ofNanos 1,
    by decide⟩

/-- The conditions can be met, by entries that cancel out: in either order they come to zero. -/
theorem total_exact_paidInAndOut :
    Bookable .brl [paidIn, paidOut] ∧ [paidIn, paidOut].length ≤ 7900000000 ∧
      ∃ s, total .brl [paidIn, paidOut] = .ok s ∧ s.value = 0 ∧ s.amount.Plain ∧
        total .brl [paidOut, paidIn] = .ok s ∧
        total .brl (upTo (.ofNanos 0) [paidIn, paidOut]) = total .brl [paidIn] := by
  have hbookable : Bookable .brl [paidIn, paidOut] := by decide
  obtain ⟨s, hs, hcomes, hperm, -, hupTo⟩ := total_exact .brl [paidIn, paidOut] hbookable (by decide)
  refine ⟨hbookable, by decide, s, hs, ?_, hcomes.plain, hperm _ (.swap ..),
    hupTo (.ofNanos 0) [paidIn] [paidOut] (.refl _) (by decide) (by decide)⟩
  rw [hcomes.value]
  decide +kernel

end Daybook.Entry
