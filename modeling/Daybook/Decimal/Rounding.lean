/-!
Division with rounding to nearest, a half going to the even neighbour.
-/

namespace Daybook

/-- The quotient rounded to nearest, a half going to the even neighbour. -/
def divEven (n unit : Nat) : Nat :=
  let quotient := n / unit
  let rest := n % unit
  if unit < 2 * rest ∨ (2 * rest = unit ∧ quotient % 2 = 1) then quotient + 1 else quotient

theorem divEven_one (n : Nat) : divEven n 1 = n := by
  simp [divEven, Nat.mod_one]

end Daybook
