import Daybook.Text.Natural

/-!
Spans of time as log lines show them: the greatest unit that leaves no zero in front, with the
fraction that is not zero.
-/

namespace Daybook.Time

/-- The text of a span in milliseconds. -/
def durationText (ms : Nat) : String :=
  if ms = 0 then "0ns"
  else if ms < 1000 then toString ms ++ "ms"
  else
    let fraction := ((Text.padded 10 3 (ms % 1000)).reverse.dropWhile (· == '0')).reverse
    toString (ms / 1000) ++ String.ofList (if fraction.isEmpty then [] else '.' :: fraction) ++ "s"

end Daybook.Time
