import Daybook.Id
import Daybook.Time

/-!
What a piece of work takes from outside: fresh identifiers and readings of the clock. They are
arguments, so that the work itself is a function.
-/

namespace Daybook

/-- A fresh identifier and the reading of the clock that goes with it. -/
structure Stamp where
  id : Uuid
  time : Time

/-- What one booking takes: a stamp for the operation and one for each of up to two entries, and the
moment of completion. -/
structure BookingStamps where
  operation : Stamp
  firstEntry : Stamp
  secondEntry : Stamp
  completed : Time

end Daybook
