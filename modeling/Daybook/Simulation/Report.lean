import Daybook.Operation

/-!
What a simulation reports: how many submissions it made, and how many operations they came to.
-/

namespace Daybook.Simulation

structure Report where
  requests : Nat
  /-- How many different operations the submissions were answered with. -/
  unique : Nat
  message : String
  /-- The operations worth showing. -/
  operations : List Operation

/-- The number of different operations. -/
def distinct (operations : List Operation) : Nat :=
  (operations.map (·.id)).eraseDups.length

namespace Report

/-- The submissions beyond the first for each operation. -/
def duplicates (r : Report) : Nat :=
  r.requests - r.unique

/-- The report of a simulation that took so many milliseconds. -/
def toJson (r : Report) (elapsed : Nat) : Json :=
  .object [
    ("totalRequests", Json.nat r.requests),
    ("uniqueOperations", Json.nat r.unique),
    ("duplicatesDetected", Json.nat r.duplicates),
    ("executionTimeMs", Json.nat elapsed),
    ("message", .string r.message),
    ("operations", .array (r.operations.map Operation.toJson))]

end Report
end Daybook.Simulation
