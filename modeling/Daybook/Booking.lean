import Daybook.Booking.Entries
import Daybook.Settings
import Daybook.Store.Script

/-!
Booking a command. The same reference can be submitted any number of times and is booked once: a
reference that is booked already answers with its operation, and when another booking of the same
reference gets ahead in between, the store refuses the second one and the first is returned. The
operation and its entries become visible together or not at all. Each step of the work is a script
that ends in the next one.
-/

namespace Daybook.Booking

variable {Draft : Type}

/-- What a booking answers with. -/
abbrev Result := Except Error Operation

/-- After a conflict on the reference: the operation that has it. -/
def recover (reference : Reference) : Script Draft Result :=
  .call (.findByReference reference) fun reply =>
    Script.andThen reply fun found =>
      match found with
      | some winner => .emit (.overtaken winner.id reference) (.done (.ok winner))
      | none =>
        .emit (.ownerMissing reference)
          (.done (.error (.store (.duplicateReference reference.text))))

/-- After an error while writing. -/
def giveUp (op : Operation) (cause : Error) : Script Draft Result :=
  match cause with
  | .store (.duplicateReference _) => recover op.reference
  | _ => .emit (.failed op.id op.reference cause) (.done (.error cause))

/-- Goes on with an answer to a write, and gives up on an error. -/
def orGiveUp {α : Type} (op : Operation) (reply : Except StoreError α)
    (next : α → Script Draft Result) : Script Draft Result :=
  match reply with
  | .ok a => next a
  | .error cause => giveUp op (.store cause)

def commit (op : Operation) (count : Nat) (draft : Draft) : Script Draft Result :=
  .call (.commit draft) fun reply =>
    orGiveUp op reply fun _ =>
      .emit (.processed op.id op.reference count) (.done (.ok op))

/-- Marks the operation as processed, in the draft too. -/
def complete (op : Operation) (completed : Time) (count : Nat) (draft : Draft) :
    Script Draft Result :=
  match op.markProcessed completed with
  | .error cause => giveUp op cause
  | .ok op =>
    .call (.updateOperation draft op) fun reply =>
      orGiveUp op reply (commit op count)

def writeEntries (op : Operation) (completed : Time) (es : List Entry) (draft : Draft) :
    Script Draft Result :=
  .call (.insertEntries draft es) fun reply =>
    orGiveUp op reply (complete op completed es.length)

def writeOperation (op : Operation) (completed : Time) (es : List Entry) (draft : Draft) :
    Script Draft Result :=
  .call (.insertOperation draft op) fun reply =>
    orGiveUp op reply (writeEntries op completed es)

/-- Writes the operation and its entries through a draft. -/
def write (op : Operation) (completed : Time) (es : List Entry) : Script Draft Result :=
  .call .begin fun reply =>
    orGiveUp op reply (writeOperation op completed es)

/-- Starts the operation and builds its entries. -/
def begin (stamps : BookingStamps) (order : Order) (settlement : Option AccountId) :
    Script Draft Result :=
  let op := Operation.start stamps.operation order.reference order.movement.kind
  match entries stamps op.id order settlement with
  | .error cause => .done (.error cause)
  | .ok es => .emit (.entriesBuilt op.id es.length) (write op stamps.completed es)

/-- Looks for the settlement account, if the movement takes one. -/
def findSettlement (settings : Settings) (stamps : BookingStamps) (order : Order) :
    Script Draft Result :=
  match settings.settlementAccount with
  | none => begin stamps order none
  | some id =>
    if order.movement.isTransfer then begin stamps order none
    else
      .call (.findAccount id) fun reply =>
        Script.andThen reply fun found =>
          match found with
          | some account =>
            if account.kind.canSettle then begin stamps order (some id)
            else .done (.error (.invalidSettlementAccount id))
          | none => .done (.error (.invalidSettlementAccount id))

/-- Looks for the accounts of the movement, one after the other. -/
def findAccounts (settings : Settings) (stamps : BookingStamps) (order : Order) :
    List AccountId → Script Draft Result
  | [] => findSettlement settings stamps order
  | id :: ids =>
    .call (.findAccount id) fun reply =>
      Script.andThen reply fun found =>
        match found with
        | some _ => findAccounts settings stamps order ids
        | none =>
          .emit (.unknownAccount order.reference id) (.done (.error (.accountNotFound id)))

/-- Looks for an operation that is booked under the reference. -/
def lookUp (settings : Settings) (stamps : BookingStamps) (order : Order) :
    Script Draft Result :=
  .call (.findByReference order.reference) fun reply =>
    Script.andThen reply fun found =>
      match found with
      | some existing =>
        .emit (.duplicate existing.id order.reference existing.status) (.done (.ok existing))
      | none => findAccounts settings stamps order order.movement.accounts

/-- Books a command. -/
def process (settings : Settings) (stamps : BookingStamps) (command : Command) :
    Script Draft Result :=
  match command.check settings.currency settings.defaultSource with
  | .error cause => .done (.error cause)
  | .ok order =>
    .emit (.received order.reference order.movement.kind order.amount order.source)
      (lookUp settings stamps order)

end Daybook.Booking
