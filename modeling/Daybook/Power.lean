/-!
Powers of ten, which scale decimals, and powers of two, which bound the numbers of machines.
-/

namespace Daybook

/-- A one with `k` zeros behind it. -/
def tens (k : Nat) : Nat :=
  Nat.pow 10 k

/-- A one with `k` zeros behind it, in binary. -/
def twos (k : Nat) : Nat :=
  Nat.pow 2 k

theorem tens_zero : tens 0 = 1 :=
  rfl

theorem tens_succ (k : Nat) : tens (k + 1) = tens k * 10 :=
  rfl

theorem tens_add (k l : Nat) : tens (k + l) = tens k * tens l :=
  Nat.pow_add ..

theorem tens_pos (k : Nat) : 0 < tens k :=
  Nat.pow_pos (by decide)

theorem tens_le_tens {k l : Nat} (h : k ≤ l) : tens k ≤ tens l :=
  Nat.pow_le_pow_right (by decide) h

theorem ten_le_tens {k : Nat} (h : 0 < k) : 10 ≤ tens k :=
  tens_le_tens h

end Daybook
