import Daybook.Decimal.Basic
import Daybook.Id
import Daybook.Operation.Status

/-!
What a simulation is asked for: the operation that it submits, and the disorder in which it does so.
-/

namespace Daybook.Simulation

/-- The operation to submit. A reference that is left out is made up, and accounts that are left out
are opened. -/
structure Request where
  reference : Option String
  kind : Operation.Kind
  sourceAccount : Option AccountId
  targetAccount : Option AccountId
  amount : Decimal

/-- A deposit of a hundred, with two digits after the point. -/
def Request.default : Request :=
  ⟨none, .deposit, none, none, ⟨false, 10000, 2, by decide, by decide⟩⟩

/-- Delays are in milliseconds. -/
inductive Scenario where
  /-- The operation is submitted many times at once. -/
  | duplicate (parallel : Nat)
  /-- It is submitted, and again and again after a delay. -/
  | retry (retries delay : Nat)
  /-- A batch of different operations comes in any order. -/
  | outOfOrder (count : Nat)
  /-- It comes late. -/
  | delayed (delay : Nat)
deriving DecidableEq

namespace Scenario

/-- A scenario without its numbers. -/
inductive Kind where
  | duplicate | retry | outOfOrder | delayed
deriving DecidableEq

instance : Named Kind where
  noun := "scenario"
  all := [.duplicate, .retry, .outOfOrder, .delayed]
  name
    | .duplicate => "duplicate"
    | .retry => "retry"
    | .outOfOrder => "out-of-order"
    | .delayed => "delayed"

def kind : Scenario → Kind
  | .duplicate _ => .duplicate
  | .retry _ _ => .retry
  | .outOfOrder _ => .outOfOrder
  | .delayed _ => .delayed

/-- For how many milliseconds the scenario waits in all. -/
def waiting : Scenario → Nat
  | .duplicate _ => 0
  | .retry retries delay => retries * delay
  | .outOfOrder _ => 0
  | .delayed delay => delay

end Scenario
end Daybook.Simulation
