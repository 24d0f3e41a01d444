import Daybook.Decimal.Binary

/-!
The shortest decimal text of a binary floating-point number: of all decimals that round to the
number the one with the fewest digits is taken, the nearest one of those (`shortest`).
-/

namespace Daybook.Decimal

/-- The fraction `n * 10 ^ k / d` as numerator and denominator. -/
def scaledByTen (n d : Nat) (k : Int) : Nat × Nat :=
  if k < 0 then (n, d * tens k.natAbs) else (n * tens k.natAbs, d)

/-- The exponent of the greatest power of ten that is at most `n / d`. -/
def floorLog10 (n d : Nat) : Int :=
  let guess : Int := ((Nat.toDigits 10 n).length : Int) - (Nat.toDigits 10 d).length
  let (a, b) := scaledByTen n d (-guess)
  if a < b then guess - 1 else guess

/-- The decimal `digits * 10 ^ exponent` rounds to `x`: it lies between the midpoints to the
neighbours of `x`, or on one of them when the significand is even. -/
def roundsTo (x : Binary) (digits : Nat) (exponent : Int) : Bool :=
  let below := if x.significand = twos 52 ∧ -1074 < x.exponent then 1 else 2
  let (a, b) := scaledByTen digits 1 exponent
  let (p, q) := scaledByTwo a b (2 - x.exponent)
  let low := (4 * x.significand - below) * q
  let high := (4 * x.significand + 2) * q
  (low < p && p < high) || (x.significand % 2 == 0 && (low == p || high == p))

/-- The decimal with that many digits that rounds to `x`, the nearer one of two. -/
def ofLength (x : Binary) (length : Nat) : Option (Nat × Int) :=
  let (n, d) := scaledByTwo x.significand 1 x.exponent
  let exponent := floorLog10 n d - ((length : Int) - 1)
  let (a, b) := scaledByTen n d (-exponent)
  let low := a / b
  let fits := fun k => roundsTo x k exponent
  if fits low && (!fits (low + 1) || 2 * (a % b) ≤ b) then some (low, exponent)
  else if fits (low + 1) then some (low + 1, exponent)
  else none

/-- Digits and exponent of the shortest decimal that rounds to `x`; seventeen digits suffice. -/
def shortest (x : Binary) : Nat × Int :=
  if x.significand = 0 then (0, 0)
  else ((List.range 17).findSome? fun n => ofLength x (n + 1)).getD (0, 0)

/-- The text of `digits * 10 ^ exponent` without an exponent. -/
def positional (digits : Nat) (exponent : Int) : List Char :=
  let ds := Nat.toDigits 10 digits
  if 0 ≤ exponent then
    if digits = 0 then ['0'] else ds ++ List.replicate exponent.natAbs '0'
  else
    let places := exponent.natAbs
    let padded := List.replicate (places + 1 - ds.length) '0' ++ ds
    let fraction := (padded.drop (padded.length - places)).reverse.dropWhile (· == '0')
    padded.take (padded.length - places) ++
      (if fraction.isEmpty then [] else '.' :: fraction.reverse)

end Daybook.Decimal
