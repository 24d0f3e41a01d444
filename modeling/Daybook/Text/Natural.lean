/-!
Natural numbers as ASCII digits.
-/

namespace Daybook.Text

/-- The value of an ASCII digit. -/
def digit? (c : Char) : Option Nat :=
  if c.isDigit then some (c.toNat - '0'.toNat) else none

/-- The number that one or more digits spell. -/
def digits? (cs : List Char) : Option Nat :=
  if cs.isEmpty then none
  else cs.foldl (fun n c => do some ((← n) * 10 + (← digit? c))) (some 0)

/-- The number that digits spell, with an optional plus sign in front. -/
def natural? (cs : List Char) : Option Nat :=
  match cs with
  | '+' :: ds => digits? ds
  | ds => digits? ds

/-- The digits of a number in a base, with zeros in front up to the width. -/
def padded (base width n : Nat) : List Char :=
  let ds := Nat.toDigits base n
  List.replicate (width - ds.length) '0' ++ ds

end Daybook.Text
