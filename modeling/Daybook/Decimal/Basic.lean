import Daybook.Power

/-!
Decimal numbers of bounded size: a sign, a mantissa below `2 ^ 96` and a scale of at most 28 stand
for `mantissa / 10 ^ scale`. Several triples can have one value, and zero can carry a sign; `value`
is the number that a decimal stands for, and comparison goes by it.
-/

namespace Daybook

structure Decimal where
  negative : Bool
  mantissa : Nat
  scale : Nat
  mantissa_lt : mantissa < twos 96
  scale_le : scale ≤ 28
deriving DecidableEq

namespace Decimal

/-- The mantissa with the sign. -/
def signed (d : Decimal) : Int :=
  if d.negative then -(d.mantissa : Int) else d.mantissa

/-- The number that the decimal stands for. -/
def value (d : Decimal) : Rat :=
  (d.signed : Rat) / (tens d.scale : Nat)

def zero : Decimal :=
  ⟨false, 0, 0, by decide, by decide⟩

def isZero (d : Decimal) : Bool :=
  d.mantissa == 0

/-- Below by value: the signed mantissas compared at a common scale. -/
def lt (a b : Decimal) : Bool :=
  a.signed * tens b.scale < b.signed * tens a.scale

/-- Equal by value. -/
def same (a b : Decimal) : Bool :=
  a.signed * tens b.scale == b.signed * tens a.scale

/-- Flips the sign, that of zero too. -/
def neg (d : Decimal) : Decimal :=
  { d with negative := !d.negative }

def abs (d : Decimal) : Decimal :=
  { d with negative := false }

/-- The number with that mantissa and scale, if both are small enough. Zero has no sign. -/
def ofParts? (negative : Bool) (mantissa scale : Nat) : Option Decimal :=
  if h : mantissa < twos 96 ∧ scale ≤ 28 then
    some ⟨negative && mantissa != 0, mantissa, scale, h.1, h.2⟩
  else none

/-- The natural number, if it is small enough. -/
def ofNat? (n : Nat) : Option Decimal :=
  ofParts? false n 0

theorem signed_neg (d : Decimal) : d.neg.signed = -d.signed := by
  cases d with
  | mk negative => cases negative <;> simp [neg, signed]

theorem signed_abs (d : Decimal) : d.abs.signed = d.mantissa := by
  simp [abs, signed]

theorem natAbs_signed (d : Decimal) : d.signed.natAbs = d.mantissa := by
  cases d with
  | mk negative => cases negative <;> simp [signed]

theorem same_refl (d : Decimal) : d.same d = true := by
  simp [same]

/-! ### Changing the scale -/

/-- Raises the scale by up to `n`, one digit at a time, while the mantissa stays small enough. -/
def raiseBy : Nat → Decimal → Decimal
  | 0, d => d
  | n + 1, d =>
    if h : d.mantissa * 10 < twos 96 ∧ d.scale + 1 ≤ 28 then
      raiseBy n ⟨d.negative, d.mantissa * 10, d.scale + 1, h.1, h.2⟩
    else d

/-- Raises the scale towards `places` as far as the mantissa allows. -/
def raise (places : Nat) (d : Decimal) : Decimal :=
  raiseBy (places - d.scale) d

/-- Cuts the digits after the first `places` behind the point, a half going away from zero. The
sign stays, also where nothing but zero is left. -/
def cut (places : Nat) (d : Decimal) : Decimal :=
  if h : d.scale ≤ places then d
  else
    let unit := tens (d.scale - places)
    let quotient := d.mantissa / unit
    { negative := d.negative
      mantissa := if unit ≤ 2 * (d.mantissa % unit) then quotient + 1 else quotient
      scale := places
      mantissa_lt := by
        have hm := d.mantissa_lt
        have hunit : 10 ≤ unit := ten_le_tens (by omega)
        have htwo : 2 ≤ twos 96 := by decide
        have hq : quotient * 10 ≤ d.mantissa :=
          Nat.le_trans (Nat.mul_le_mul_left _ hunit) (Nat.div_mul_le_self ..)
        split <;> omega
      scale_le := by have := d.scale_le; omega }

/-- Rounds to at most `places` digits after the point, a half going away from zero. A number that
is rounded to zero loses its sign. -/
def round (places : Nat) (d : Decimal) : Decimal :=
  let r := d.cut places
  { r with negative := r.negative && (r.mantissa != 0 || d.mantissa == 0) }

theorem scale_cut_le (places : Nat) (d : Decimal) : (d.cut places).scale ≤ places := by
  unfold cut
  split
  · assumption
  · exact Nat.le_refl _

theorem scale_round_le (places : Nat) (d : Decimal) : (d.round places).scale ≤ places :=
  scale_cut_le places d

/-! ### Settled at a number of places

A decimal is settled at `places` when its scale is `places`, or smaller only because another digit
would make the mantissa too big. -/

/-- The scale is as close below `places` as the mantissa allows. -/
def Settled (places : Nat) (d : Decimal) : Prop :=
  d.scale ≤ places ∧ (d.scale < places → twos 96 ≤ d.mantissa * 10)

theorem settled_raiseBy {places : Nat} (small : places ≤ 28) (n : Nat) (d : Decimal)
    (h : d.scale + n = places) : Settled places (raiseBy n d) := by
  induction n generalizing d with
  | zero =>
    have he : raiseBy 0 d = d := rfl
    rw [he]
    exact ⟨by omega, fun hlt => absurd hlt (by omega)⟩
  | succ n ih =>
    rw [raiseBy]
    split
    · exact ih _ (by simp; omega)
    · rename_i hstop
      exact ⟨by omega, fun _ => by omega⟩

theorem settled_raise {places : Nat} (small : places ≤ 28) {d : Decimal} (h : d.scale ≤ places) :
    Settled places (d.raise places) :=
  settled_raiseBy small _ d (by omega)

theorem Settled.neg {places : Nat} {d : Decimal} (h : Settled places d) : Settled places d.neg :=
  h

theorem Settled.abs {places : Nat} {d : Decimal} (h : Settled places d) : Settled places d.abs :=
  h

end Decimal
end Daybook
