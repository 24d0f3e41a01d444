import Daybook.Decimal.Basic
import Daybook.Decimal.Rounding

/-!
Decimals kept as binary floating-point numbers. A decimal is rounded to the nearest number of 53
significant bits (`nearest`), and comes back exactly if that is a whole number of the floating-point
grid, and otherwise with as many digits as fit below `2 ^ 52` (`toDecimal?`).
-/

namespace Daybook.Decimal

/-- The fraction `n * 2 ^ k / d` as numerator and denominator. -/
def scaledByTwo (n d : Nat) (k : Int) : Nat × Nat :=
  if k < 0 then (n, d * twos k.natAbs) else (n * twos k.natAbs, d)

/-- The exponent of the greatest power of two that is at most `n / d`. -/
def floorLog2 (n d : Nat) : Int :=
  let guess : Int := (n.log2 : Int) - d.log2
  let (a, b) := scaledByTwo n d (-guess)
  if a < b then guess - 1 else guess

/-- A number of the form `significand * 2 ^ exponent` with at most 53 bits. -/
structure Binary where
  significand : Nat
  exponent : Int

/-- The number of 53 bits nearest to `n / d`, a half going to the even neighbour; below `2 ^ -1022`
the bits get fewer. -/
def nearest (n d : Nat) : Binary :=
  let exponent := max (floorLog2 n d - 52) (-1074)
  let (a, b) := scaledByTwo n d (-exponent)
  let significand := divEven a b
  if significand = twos 53 then ⟨twos 52, exponent + 1⟩ else ⟨significand, exponent⟩

namespace Binary

/-- The size of a decimal as a binary number. -/
def ofDecimal (d : Decimal) : Binary :=
  nearest d.mantissa (tens d.scale)

/-- Mantissa and places of `mantissa / 2 ^ k / 10 ^ places`: an odd mantissa is multiplied by five
for a place more, as long as 96 bits hold it. -/
def divideByTwos : (k mantissa places : Nat) → Nat × Nat
  | 0, mantissa, places => (mantissa, places)
  | k + 1, mantissa, places =>
    if mantissa % 2 = 0 || twos 96 ≤ mantissa * 5 then divideByTwos k (mantissa / 2) places
    else divideByTwos k (mantissa * 5) (places + 1)

/-- Rounds off one place after the other, until the mantissa is below `2 ^ 52` and the places are at
most 28. -/
def dropExcess : (places mantissa : Nat) → Nat × Nat
  | 0, mantissa => (mantissa, 0)
  | places + 1, mantissa =>
    if 28 ≤ places || twos 52 ≤ mantissa then dropExcess places ((mantissa + 5) / 10)
    else (mantissa, places + 1)

/-- Removes the zeros at the end of the fraction. -/
def dropZeros : (places mantissa : Nat) → Nat × Nat
  | 0, mantissa => (mantissa, 0)
  | places + 1, mantissa =>
    if mantissa % 10 = 0 then dropZeros places (mantissa / 10) else (mantissa, places + 1)

/-- The decimal that the binary number is read as, if its size is in range. -/
def toDecimal? (x : Binary) : Option Decimal :=
  if 0 ≤ x.exponent then ofNat? (x.significand * twos x.exponent.natAbs)
  else
    let (mantissa, places) := divideByTwos x.exponent.natAbs x.significand 0
    let (mantissa, places) := dropExcess places mantissa
    let (mantissa, places) := dropZeros places mantissa
    ofParts? false mantissa places

end Binary

/-- The decimal after it was kept as a binary number; zero loses its sign. -/
def throughBinary? (d : Decimal) : Option Decimal :=
  (Binary.ofDecimal d).toDecimal?.map fun r => { r with negative := d.negative && !d.isZero }

end Daybook.Decimal
