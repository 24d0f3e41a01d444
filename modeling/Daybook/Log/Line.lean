import Daybook.Json
import Daybook.Log.Level

/-!
A log line: who speaks, how weighty it is, a fixed message and named values. Numbers stay numbers,
all other values are texts. Some values are known only where the line is written; of those the line
has the names.
-/

namespace Daybook.Log

/-- The part of the program that speaks. -/
inductive Target where
  | booking | balances | reconciliations | database | simulator | scenarios
deriving DecidableEq

def Target.name : Target → String
  | .booking => "ledger_core::ledger::processor"
  | .balances => "ledger_core::ledger::balance_service"
  | .reconciliations => "ledger_core::reconciliation::reconciler"
  | .database => "ledger_db::store"
  | .simulator => "simulator"
  | .scenarios => "simulator::scenarios"

structure Line where
  level : Level
  target : Target
  message : String
  fields : List (String × Json)
  /-- The fields whose values are not known yet. -/
  pending : List String

/-- The line has a field of that name; the message is one. -/
def Line.hasField (l : Line) (name : String) : Bool :=
  name == "message" || l.fields.any (·.1 == name) || l.pending.contains name

/-- The line as one JSON object, with the message among the fields. -/
def Line.toJson (l : Line) : Json :=
  .object [
    ("level", .string l.level.name),
    ("fields", .object (("message", .string l.message) :: l.fields)),
    ("target", .string l.target.name)]

end Daybook.Log
