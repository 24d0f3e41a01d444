import Daybook.Decimal.Text
import Daybook.Decimal.Shortest
import Daybook.Json

/-!
Decimals in JSON. They are written as texts. Read are texts, integers of 64 bits, and other numbers,
which count as the shortest text of the floating-point number that they round to.
-/

namespace Daybook.Decimal

def toJson (d : Decimal) : Json :=
  .string d.toText

/-- The integers that are read as they stand. -/
def isMachineInteger (mantissa : Int) (exponent : Nat) : Bool :=
  exponent == 0 && -(twos 63 : Int) ≤ mantissa && mantissa < twos 64

def ofNumber? (mantissa : Int) (exponent : Nat) : Option Decimal :=
  if isMachineInteger mantissa exponent then ofParts? (decide (mantissa < 0)) mantissa.natAbs 0
  else
    let sign := if mantissa < 0 then ['-'] else []
    let (digits, e) := shortest (nearest mantissa.natAbs (tens exponent))
    ofChars? (sign ++ positional digits e)

def ofJson? : Json → Option Decimal
  | .string s => ofText? s
  | .number mantissa exponent => ofNumber? mantissa exponent
  | _ => none

end Daybook.Decimal
