import Daybook.Command
import Daybook.Entry
import Daybook.Operation

/-!
The entries of an order: one credit for a deposit, one debit for a withdrawal, a debit and a credit
for a transfer. A settlement account takes the other side of a deposit or withdrawal. Entries that
have two sides must balance.
-/

namespace Daybook.Booking

/-- The entries on the accounts of the movement and on the settlement account. -/
def sides (stamps : BookingStamps) (id : OperationId) (order : Order)
    (settlement : Option AccountId) : Except Error (List Entry) :=
  match order.movement with
  | .deposit target => do
    let main ← Entry.credit stamps.firstEntry id target order.amount .deposit order.source
    match settlement with
    | none => return [main]
    | some account =>
      return [main, ← Entry.debit stamps.secondEntry id account order.amount .depositSettlement
        order.source]
  | .withdrawal source => do
    let main ← Entry.debit stamps.firstEntry id source order.amount .withdrawal order.source
    match settlement with
    | none => return [main]
    | some account =>
      return [main, ← Entry.credit stamps.secondEntry id account order.amount
        .withdrawalSettlement order.source]
  | .transfer source target => do
    let out ← Entry.debit stamps.firstEntry id source order.amount .transferOut order.source
    return [out, ← Entry.credit stamps.secondEntry id target order.amount .transferIn
      order.source]

/-- The entries of an order; where there are two sides, they balance. -/
def entries (stamps : BookingStamps) (id : OperationId) (order : Order)
    (settlement : Option AccountId) : Except Error (List Entry) := do
  let es ← sides stamps id order settlement
  if (settlement.isSome || order.movement.isTransfer) && !Entry.balanced es then
    .error (.unbalancedEntries id)
  else return es

end Daybook.Booking
