import Daybook.Proofs.Booking.Conservation
import Daybook.Proofs.Entry.Total
import Daybook.Proofs.Money.Arithmetic
import Mathlib.Algebra.Order.BigOperators.Group.List

/-!
When entries are taken to balance. What is checked is the rounded sum: the amounts are added up one
after the other, and each sum on the way is rounded to the digits it has room for (`AddsUp`). As long
as every sum on the way is that of some amount, nothing is lost, and the check finds out whether the
entries balance (`Entry.balanced_exact`). Where a sum on the way is too big, entries can be taken to
balance that do not, and entries that do can be refused, depending on their order
(`Entry.balanced_inexact`).
-/

namespace Daybook

/-- From `x` on the numbers come to `z` if they are added up in order. Each sum has room before the
point, and it is rounded half to even where not all of four places have room. -/
inductive AddsUp : Rat → List Rat → Rat → Prop where
  | nil (x : Rat) : AddsUp x [] x
  | cons {x a y z : Rat} {as : List Rat} (room : Room 0 (x + a))
      (rounded : RoundsEven (roomiest 4 (x + a)) (x + a) y) (rest : AddsUp y as z) :
      AddsUp x (a :: as) z

/-- Nothing is lost where every sum on the way is that of some amount. -/
theorem addsUp_iff_of_held {x z : Rat} {as : List Rat}
    (h : ∀ k, ∃ m : Money, m.value = x + (as.take k).sum) : AddsUp x as z ↔ z = x + as.sum := by
  induction as generalizing x with
  | nil =>
      rw [List.sum_nil, add_zero]
      constructor
      · rintro ⟨⟩
        rfl
      · rintro rfl
        exact .nil z
  | cons a as ih =>
      obtain ⟨m, hm⟩ := h 1
      rw [List.take_succ_cons, List.take_zero, List.sum_singleton] at hm
      have hrest : ∀ k, ∃ m : Money, m.value = x + a + (as.take k).sum := by
        intro k
        obtain ⟨m', hm'⟩ := h (k + 1)
        rw [List.take_succ_cons, List.sum_cons, ← add_assoc] at hm'
        exact ⟨m', hm'⟩
      have hself : RoundsEven (roomiest 4 (x + a)) (x + a) (x + a) :=
        hm ▸ Decimal.nearest_roomiest m.scale_le
      rw [List.sum_cons, ← add_assoc, ← ih hrest]
      constructor
      · rintro (_ | ⟨room, rounded, rest⟩)
        rwa [rounded.unique hself] at rest
      · exact .cons (hm ▸ m.amount.room_scale.mono (Nat.zero_le _)) hself

namespace Money

variable {a : Money} {ms : List Money}

/-- Adding amounts up succeeds in one currency where their numbers add up. -/
theorem exists_foldlM_iff {z : Rat} :
    (∃ s, ms.foldlM add a = .ok s ∧ s.value = z) ↔
      (∀ m ∈ ms, m.currency = a.currency) ∧ AddsUp a.value (ms.map value) z := by
  induction ms generalizing a with
  | nil =>
      constructor
      · rintro ⟨s, ⟨⟩, rfl⟩
        exact ⟨List.forall_mem_nil _, .nil _⟩
      · rintro ⟨-, ⟨⟩⟩
        exact ⟨a, rfl, rfl⟩
  | cons m ms ih =>
      rw [List.foldlM_cons, List.forall_mem_cons, List.map_cons]
      constructor
      · rintro ⟨s, hs, hz⟩
        obtain ⟨c, hc, hs⟩ := except_bind_eq_ok.1 hs
        obtain ⟨hm, hsame, room, rounded⟩ := (add_combines a m).of_ok hc
        obtain ⟨hms, rest⟩ := ih.1 ⟨s, hs, hz⟩
        exact ⟨⟨hm, hsame ▸ hms⟩, .cons room rounded rest⟩
      · rintro ⟨⟨hm, hms⟩, _ | ⟨room, rounded, rest⟩⟩
        obtain ⟨c, hc, hsame, hrounded, -⟩ := (add_combines a m).rounded hm.symm room
        rw [rounded.unique hrounded] at rest
        obtain ⟨s, hs, hz⟩ := ih.2 ⟨hsame ▸ hms, rest⟩
        exact ⟨s, except_bind_eq_ok.2 ⟨c, hc, hs⟩, hz⟩

end Money

namespace Entry

variable {es es' : List Entry}

/-- There are entries, they are in one currency, and they come to nothing. -/
structure Balances (es : List Entry) : Prop where
  nonempty : es ≠ []
  currency : ∃ c, ∀ e ∈ es, e.amount.currency = c
  total : exactTotal es = 0

/-- Entries in one currency are taken to balance where their amounts add up to zero. -/
theorem balanced_iff (es : List Entry) :
    balanced es = true ↔ es ≠ [] ∧ (∃ c, ∀ e ∈ es, e.amount.currency = c) ∧
      AddsUp 0 (es.map (·.amount.value)) 0 := by
  cases es with
  | nil => simp [balanced]
  | cons e es =>
      have hzero : (Money.zero e.amount.currency).value = 0 := by
        rw [(Money.counts_zero _).value, Int.cast_zero, zero_div]
      have hsum : balanced (e :: es) = true ↔
          ∃ s, Money.sum e.amount.currency ((e :: es).map (·.amount)) = .ok s ∧ s.value = 0 := by
        simp only [Money.value_eq_zero_iff, balanced]
        cases Money.sum e.amount.currency ((e :: es).map (·.amount)) <;> simp
      have hcurrency : (∃ c, ∀ e' ∈ e :: es, e'.amount.currency = c) ↔
          ∀ m ∈ (e :: es).map (·.amount), m.currency = e.amount.currency := by
        rw [List.forall_mem_map]
        constructor
        · rintro ⟨c, hc⟩ e' he'
          rw [hc e' he', hc e List.mem_cons_self]
        · intro h
          exact ⟨e.amount.currency, h⟩
      rw [hsum, Money.sum, Money.exists_foldlM_iff, hzero, hcurrency, List.map_map]
      exact (and_iff_right (List.cons_ne_nil e es)).symm

/-- Every sum on the way, from the first entry on, is that of some amount. -/
def Held (es : List Entry) : Prop :=
  ∀ k, ∃ m : Money, m.value = exactTotal (es.take k)

/-- Where nothing is lost on the way, the check is right. -/
theorem Held.balanced_iff (h : Held es) : balanced es = true ↔ Balances es := by
  have htakes : ∀ k, ∃ m : Money, m.value = 0 + ((es.map (·.amount.value)).take k).sum := by
    intro k
    rw [zero_add, ← List.map_take]
    exact h k
  rw [Entry.balanced_iff, addsUp_iff_of_held htakes, zero_add, eq_comm]
  constructor
  · rintro ⟨hnonempty, hcurrency, htotal⟩
    exact ⟨hnonempty, hcurrency, htotal⟩
  · rintro ⟨hnonempty, hcurrency, htotal⟩
    exact ⟨hnonempty, hcurrency, htotal⟩

theorem Balances.perm (h : Balances es) (hperm : es'.Perm es) : Balances es' where
  nonempty := by
    rintro rfl
    exact h.nonempty hperm.nil_eq.symm
  currency := by
    obtain ⟨c, hc⟩ := h.currency
    exact ⟨c, fun e he => hc e (hperm.mem_iff.1 he)⟩
  total := (hperm.map _).sum_eq.trans h.total

/-! ### Room for every order -/

/-- What the entries move, whichever way. -/
def volume (es : List Entry) : Rat :=
  (es.map fun e => |e.amount.value|).sum

theorem volume_nonneg (es : List Entry) : 0 ≤ volume es := by
  refine List.sum_nonneg fun x hx => ?_
  obtain ⟨e, -, rfl⟩ := List.mem_map.1 hx
  exact abs_nonneg _

/-- No sum on the way is more than what is moved. -/
theorem abs_exactTotal_take_le (es : List Entry) (k : Nat) : |exactTotal (es.take k)| ≤ volume es := by
  induction es generalizing k with
  | nil => simp [exactTotal, volume]
  | cons e es ih =>
      cases k with
      | zero =>
          rw [List.take_zero, exactTotal, List.map_nil, List.sum_nil, abs_zero]
          exact volume_nonneg _
      | succ k =>
          have hrest := ih k
          rw [exactTotal] at hrest
          rw [List.take_succ_cons, exactTotal, volume, List.map_cons, List.sum_cons, List.map_cons,
            List.sum_cons]
          exact (abs_add_le _ _).trans (add_le_add le_rfl hrest)

/-- A sum of amounts counts units of the last place. -/
theorem exists_exactTotal (es : List Entry) : ∃ n : Int, exactTotal es = n / (tens 4 : Nat) := by
  induction es with
  | nil => exact ⟨0, by simp [exactTotal]⟩
  | cons e es ih =>
      obtain ⟨n, hn⟩ := ih
      have hvalue : e.amount.value = _ := Decimal.value_at e.amount.scale_le
      rw [exactTotal] at hn
      refine ⟨e.amount.amount.signed * tens (4 - e.amount.amount.scale) + n, ?_⟩
      rw [exactTotal, List.map_cons, List.sum_cons, hn, hvalue, ← add_div, ← Int.cast_add]

/-- Units that have room are those of some amount. -/
theorem exists_money {x : Rat} {n : Int} (hx : x = n / (tens 4 : Nat)) (hroom : Room 4 x) :
    ∃ m : Money, m.value = x := by
  have hsmall : n.natAbs < twos 96 := by
    rw [Room, hx, abs_div, Nat.abs_cast, div_mul_cancel₀ _ (Decimal.tens_ne_zero 4), ← Int.cast_abs,
      ← Nat.cast_natAbs] at hroom
    have : (n.natAbs : Rat) < (twos 96 : Nat) := by linarith
    exact_mod_cast this
  obtain ⟨d, hsigned, hscale⟩ := Decimal.exists_signed hsmall (show 4 ≤ 28 by decide)
  have hvalue : d.value = x := by rw [Decimal.value, hsigned, hscale, hx]
  exact ⟨Money.settle d .brl hscale.le, (Decimal.value_raise 4 d).trans hvalue⟩

/-- If there is room for all that is moved, there is for every sum on the way, in any order. -/
theorem held_of_room (h : Room 4 (volume es)) (hperm : es'.Perm es) : Held es' := by
  intro k
  obtain ⟨n, hn⟩ := exists_exactTotal (es'.take k)
  refine exists_money hn ?_
  have hvolume : volume es' = volume es := (hperm.map _).sum_eq
  have hle := abs_exactTotal_take_le es' k
  rw [hvolume, ← abs_of_nonneg (volume_nonneg es)] at hle
  exact lt_of_le_of_lt (mul_le_mul_of_nonneg_right hle (Nat.cast_nonneg _)) h

/-- There is room for what up to 7 900 000 000 entries move that fit the books. -/
theorem room_volume (hstorable : ∀ e ∈ es, e.amount.isStorable = true) (hfew : es.length ≤ 7900000000) :
    Room 4 (volume es) := by
  have hvolume : volume es ≤ es.length * 10 ^ 15 := by
    clear hfew
    induction es with
    | nil => simp [volume]
    | cons e es ih =>
        obtain ⟨he, hes⟩ := List.forall_mem_cons.1 hstorable
        have hsmall := (Money.isStorable_iff _).1 he
        have hrest := ih hes
        rw [volume] at hrest ⊢
        rw [List.map_cons, List.sum_cons, List.length_cons]
        push_cast
        linarith
  have hlength : (es.length : Rat) ≤ 7900000000 := by exact_mod_cast hfew
  rw [Room, abs_of_nonneg (volume_nonneg es)]
  norm_num [tens, twos]
  linarith

/-- **What the check of a posting finds out.** Entries are taken to balance where they are in one
currency and their amounts, added up in order and rounded to the room there is, come to zero. Where every
sum on the way is that of some amount, this is so exactly when they balance; and if there is room for all
that they move, as there is for 7 900 000 000 entries that fit the books, then in every order. -/
theorem balanced_exact (es : List Entry) :
    (balanced es = true ↔ es ≠ [] ∧ (∃ c, ∀ e ∈ es, e.amount.currency = c) ∧
      AddsUp 0 (es.map (·.amount.value)) 0) ∧
    (Held es → (balanced es = true ↔ Balances es)) ∧
    (Room 4 (volume es) → ∀ es', es'.Perm es → (balanced es' = true ↔ Balances es)) ∧
    ((∀ e ∈ es, e.amount.isStorable = true) → es.length ≤ 7900000000 → Room 4 (volume es)) := by
  refine ⟨balanced_iff es, Held.balanced_iff, fun hroom es' hperm => ?_, room_volume⟩
  rw [(held_of_room hroom hperm).balanced_iff]
  exact ⟨fun h => h.perm hperm.symm, fun h => h.perm hperm⟩

/-- As much as an amount can be, brought in. -/
def flood : Entry :=
  { paidIn with amount := Money.largest, carries := by decide }

/-- And taken out again. -/
def ebb : Entry :=
  { paidOut with amount := Money.largest.negate, carries := by decide }

/-- The least that can be brought in. -/
def drop : Entry :=
  { paidIn with amount := Money.smallest, carries := by decide }

/-- **The check can be wrong both ways**, and the order decides. In the first list the least amount is
lost in the greatest, in the second the sum on the way has no room. -/
theorem balanced_inexact :
    (balanced [flood, drop, ebb] = true ∧ ¬ Balances [flood, drop, ebb] ∧
      balanced [flood, ebb, drop] = false) ∧
    balanced [flood, flood, ebb, ebb] = false ∧ Balances [flood, flood, ebb, ebb] ∧
      balanced [flood, ebb, flood, ebb] = true := by
  refine ⟨⟨by decide +kernel, fun h => absurd h.total (by decide +kernel), by decide +kernel⟩,
    by decide +kernel, ⟨List.cons_ne_nil _ _, ⟨.brl, by decide⟩, by decide +kernel⟩, by decide +kernel⟩

end Entry
end Daybook
