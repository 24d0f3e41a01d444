import Daybook.Decimal.Basic
import Daybook.Decimal.Rounding

/-!
Sums, differences and products. The exact result is formed at the scale it needs; when its mantissa
is too big, digits after the point are dropped, as few as possible, the rest being rounded to
nearest with a half going to the even neighbour. Without enough digits after the point there is no
result.
-/

namespace Daybook.Decimal

/-- The number without its last `k` digits after the point, if what is left is small enough. -/
def dropping (negative : Bool) (magnitude scale k : Nat) : Option Decimal :=
  let m := divEven magnitude (tens k)
  if h : m < twos 96 ∧ scale - k ≤ 28 then some ⟨negative, m, scale - k, h.1, h.2⟩ else none

/-- `magnitude / 10 ^ scale` with as few digits dropped as needed. -/
def fit (negative : Bool) (magnitude scale : Nat) : Option Decimal :=
  (List.range (scale + 1)).findSome? (dropping negative magnitude scale)

/-- The exact sum at the larger scale, fitted. -/
def fittedSum (a b : Decimal) : Option Decimal :=
  let scale := max a.scale b.scale
  let sum := a.signed * tens (scale - a.scale) + b.signed * tens (scale - b.scale)
  fit (decide (sum < 0)) sum.natAbs scale

/-- The sum; adding to zero or adding zero gives the other operand as it stands. -/
def add? (a b : Decimal) : Option Decimal :=
  if a.isZero then some b
  else if b.isZero then some a
  else fittedSum a b

/-- The difference; what is subtracted from zero is turned, a zero excepted. -/
def sub? (a b : Decimal) : Option Decimal :=
  if b.isZero then some (if a.isZero then b else a)
  else if a.isZero then some b.neg
  else fittedSum a b.neg

/-- The product; a zero factor gives plain zero. -/
def mul? (a b : Decimal) : Option Decimal :=
  if a.isZero || b.isZero then some zero
  else fit (a.negative != b.negative) (a.mantissa * b.mantissa) (a.scale + b.scale)

theorem scale_fit_le {negative : Bool} {magnitude scale : Nat} {d : Decimal}
    (h : fit negative magnitude scale = some d) : d.scale ≤ scale := by
  obtain ⟨k, -, hk⟩ := List.exists_of_findSome?_eq_some h
  simp only [dropping] at hk
  split at hk
  · cases hk
    exact Nat.sub_le ..
  · cases hk

theorem scale_fittedSum_le {a b d : Decimal} (h : fittedSum a b = some d) :
    d.scale ≤ max a.scale b.scale :=
  scale_fit_le h

theorem scale_add_le {a b d : Decimal} (h : add? a b = some d) :
    d.scale ≤ max a.scale b.scale := by
  unfold add? at h
  split at h
  · cases h; exact Nat.le_max_right ..
  · split at h
    · cases h; exact Nat.le_max_left ..
    · exact scale_fittedSum_le h

theorem scale_sub_le {a b d : Decimal} (h : sub? a b = some d) :
    d.scale ≤ max a.scale b.scale := by
  unfold sub? at h
  split at h
  · cases h
    split
    · exact Nat.le_max_right ..
    · exact Nat.le_max_left ..
  · split at h
    · cases h; exact Nat.le_max_right ..
    · exact scale_fittedSum_le (b := b.neg) h

end Daybook.Decimal
