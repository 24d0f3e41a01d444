/-!
Moments of time: whole seconds since the start of 1970 in UTC, and nanoseconds. A leap second
belongs to the second before it, with nanoseconds from 1000000000 on.
-/

namespace Daybook

structure Time where
  second : Int
  nano : Nat
  nano_lt : nano < 2000000000
deriving DecidableEq

namespace Time

/-- The place on the line of time, leap seconds counted. -/
def key (t : Time) : Int :=
  t.second * 2000000000 + t.nano

def le (a b : Time) : Bool :=
  a.key ≤ b.key

/-- The moment that many nanoseconds after the start of 1970, without leap seconds. -/
def ofNanos (n : Int) : Time :=
  ⟨n / 1000000000, (n % 1000000000).toNat, by omega⟩

theorem key_injective {a b : Time} (h : a.key = b.key) : a = b := by
  have ha := a.nano_lt
  have hb := b.nano_lt
  cases a with
  | mk s n hn =>
    cases b with
    | mk s' n' hn' =>
      simp only [key] at h ha hb
      have hs : s = s' := by omega
      have hn : n = n' := by omega
      subst hs hn
      rfl

theorem le_refl (t : Time) : t.le t = true := by
  simp [le]

theorem le_trans {a b c : Time} (hab : a.le b = true) (hbc : b.le c = true) : a.le c = true := by
  simp only [le, decide_eq_true_eq] at *
  omega

theorem le_total (a b : Time) : (a.le b || b.le a) = true := by
  simp only [le, Bool.or_eq_true, decide_eq_true_eq]
  omega

theorem le_antisymm {a b : Time} (hab : a.le b = true) (hba : b.le a = true) : a = b := by
  simp only [le, decide_eq_true_eq] at *
  exact key_injective (by omega)

end Time
end Daybook
