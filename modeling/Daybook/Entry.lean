import Daybook.Error
import Daybook.Stamp
import Daybook.Time.Text

/-!
Entries: one amount booked on one account for one operation. The sign of the amount is that of the
direction, so no entry is zero. Entries balance when they are of one currency and add up to zero.
-/

namespace Daybook

structure Entry where
  id : EntryId
  operation : OperationId
  account : AccountId
  amount : Money
  direction : Entry.Direction
  purpose : Entry.Purpose
  source : String
  createdAt : Time
  carries : direction.Carries amount
deriving DecidableEq

namespace Entry

/-- An entry with a signed amount: zero is refused, and so is a sign that is not that of the
direction. -/
def make (stamp : Stamp) (operation : OperationId) (account : AccountId) (amount : Money)
    (direction : Direction) (purpose : Purpose) (source : String) : Except Error Entry :=
  if amount.isZero then .error .zeroAmount
  else if h : direction.Carries amount then
    .ok ⟨⟨stamp.id⟩, operation, account, amount, direction, purpose, source, stamp.time, h⟩
  else .error (.directionMismatch direction amount.amount)

/-- The entry that takes a positive amount from an account. -/
def debit (stamp : Stamp) (operation : OperationId) (account : AccountId) (amount : Money)
    (purpose : Purpose) (source : String) : Except Error Entry :=
  if amount.isPositive then
    make stamp operation account amount.negate .debit purpose source
  else .error (.nonPositiveAmount amount.amount)

/-- The entry that brings a positive amount to an account. -/
def credit (stamp : Stamp) (operation : OperationId) (account : AccountId) (amount : Money)
    (purpose : Purpose) (source : String) : Except Error Entry :=
  if amount.isPositive then
    make stamp operation account amount .credit purpose source
  else .error (.nonPositiveAmount amount.amount)

def isDebit (e : Entry) : Bool :=
  e.direction == .debit

def isCredit (e : Entry) : Bool :=
  e.direction == .credit

/-- There are entries, and added up in order they come to zero in the currency of the first. -/
def balanced (es : List Entry) : Bool :=
  match es with
  | [] => false
  | e :: _ =>
    match Money.sum e.amount.currency (es.map (·.amount)) with
    | .ok total => total.isZero
    | .error _ => false

/-- What entries come to in a currency. -/
def total (c : Currency) (es : List Entry) : Except MoneyError Money :=
  Money.sum c (es.map (·.amount))

/-- The entries made at or before a moment. -/
def upTo (cutoff : Time) (es : List Entry) : List Entry :=
  es.filter fun e => e.createdAt.le cutoff

def toJson (e : Entry) : Json :=
  .object [
    ("id", e.id.toJson),
    ("operation_id", e.operation.toJson),
    ("account_id", e.account.toJson),
    ("amount", e.amount.toJson),
    ("direction", Named.toJson e.direction),
    ("entry_type", Named.toJson e.purpose),
    ("source", .string e.source),
    ("created_at", e.createdAt.toJson)]

end Entry
end Daybook
