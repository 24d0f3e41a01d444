import Daybook.Decimal.Basic
import Daybook.Text.Divide
import Daybook.Text.Natural

/-!
Decimal numbers as text. Written are all digits of the scale, with a minus sign when the sign is
set. Read are a plain form (a sign, digits, one point, underscores between digits) and a form with
an exponent. Digits after the point that do not fit are rounded away at the first of them, a half
going up; digits before the point have to fit.
-/

namespace Daybook.Decimal

/-! ### Writing -/

/-- The digits of the mantissa, at least one more than the scale. -/
def digits (d : Decimal) : List Char :=
  let ds := Nat.toDigits 10 d.mantissa
  List.replicate (d.scale + 1 - ds.length) '0' ++ ds

def toChars (d : Decimal) : List Char :=
  let ds := d.digits
  let whole := ds.take (ds.length - d.scale)
  let fraction := ds.drop (ds.length - d.scale)
  (if d.negative then ['-'] else []) ++ whole ++
    (if d.scale = 0 then [] else '.' :: fraction)

def toText (d : Decimal) : String :=
  String.ofList d.toChars

/-! ### Reading -/

/-- Mantissa and scale after `digit`, the first digit after the point that does not fit. When the
last digit kept carries over the largest mantissa, one more digit goes. -/
def roundedAt (mantissa scale digit : Nat) : Option (Nat × Nat) :=
  let m := if 5 ≤ digit then mantissa + 1 else mantissa
  if m < twos 96 then some (m, scale)
  else if scale = 0 then none
  else some ((m + 4) / 10, scale - 1)

/-- Mantissa and scale of a text that goes on behind the point; `seen` tells whether a digit has
been read. -/
def readFraction : List Char → Bool → Nat → Nat → Option (Nat × Nat)
  | [], seen, m, s => if seen then some (m, s) else none
  | c :: cs, seen, m, s =>
    if c = '_' then
      if seen then readFraction cs seen m s else none
    else
      match Text.digit? c with
      | none => none
      | some d =>
        if s < 28 ∧ m * 10 + d < twos 96 then readFraction cs true (m * 10 + d) (s + 1)
        else if cs.all fun c => c.isDigit || c == '_' then roundedAt m s d
        else none

/-- Mantissa and scale of a text that goes on before the point. -/
def readWhole : List Char → Bool → Nat → Option (Nat × Nat)
  | [], seen, m => if seen then some (m, 0) else none
  | c :: cs, seen, m =>
    if c = '.' then readFraction cs seen m 0
    else if c = '_' then
      if seen then readWhole cs seen m else none
    else
      match Text.digit? c with
      | none => none
      | some d => if m * 10 + d < twos 96 then readWhole cs true (m * 10 + d) else none

/-- An optional sign and the rest. -/
def splitSign : List Char → Bool × List Char
  | '-' :: cs => (true, cs)
  | '+' :: cs => (false, cs)
  | cs => (false, cs)

/-- A plain number: no exponent. -/
def readPlain (cs : List Char) : Option Decimal :=
  let (negative, rest) := splitSign cs
  match readWhole rest false 0 with
  | some (m, s) => ofParts? negative m s
  | none => none

/-- A natural number below `2 ^ 32` in digits, with an optional plus sign. -/
def readExponent (cs : List Char) : Option Nat :=
  (Text.natural? cs).filter (· < twos 32)

/-- Moves the point to the left. Digits behind the 28th place are rounded away. -/
def shiftDown (d : Decimal) (x : Nat) : Option Decimal :=
  if x > 28 then none
  else
    let kept := if d.scale + x ≤ 28 then d else d.cut (28 - x)
    if h : kept.scale + x ≤ 28 then some { kept with scale := kept.scale + x, scale_le := h }
    else none

/-- Moves the point to the right. What reaches beyond the digits after the point has to fit. -/
def shiftUp (d : Decimal) (x : Nat) : Option Decimal :=
  if x ≤ d.scale then
    some { d with scale := d.scale - x, scale_le := Nat.le_trans (Nat.sub_le ..) d.scale_le }
  else if x > 28 then none
  else ofParts? d.negative (d.mantissa * tens (x - d.scale)) 0

/-- A plain number, `e` or `E`, and an exponent. -/
def readScientific (cs : List Char) : Option Decimal :=
  match Text.divide (fun c => c == 'e' || c == 'E') cs with
  | (number, some exponent) => do
    let base ← readPlain number
    match exponent with
    | '-' :: rest => shiftDown base (← readExponent rest)
    | _ => shiftUp base (← readExponent exponent)
  | (_, none) => none

def ofChars? (cs : List Char) : Option Decimal :=
  match readPlain cs with
  | some d => some d
  | none => readScientific cs

def ofText? (s : String) : Option Decimal :=
  ofChars? s.toList

end Daybook.Decimal
