import Daybook.Log.Line
import Daybook.Operation

/-!
What the ledger and its programs report while they work, as values. `Event.line` gives the log line
of an event.
-/

namespace Daybook

inductive Event where
  /-- A command passed its checks. -/
  | received (reference : Reference) (kind : Operation.Kind) (amount : Money) (source : String)
  /-- The reference is booked already. -/
  | duplicate (operation : OperationId) (reference : Reference) (status : Operation.Status)
  | unknownAccount (reference : Reference) (account : AccountId)
  | entriesBuilt (operation : OperationId) (entries : Nat)
  | processed (operation : OperationId) (reference : Reference) (entries : Nat)
  /-- The same reference was booked by somebody else in the meantime. -/
  | overtaken (operation : OperationId) (reference : Reference)
  /-- The store says that the reference is taken, but has no operation under it. -/
  | ownerMissing (reference : Reference)
  | failed (operation : OperationId) (reference : Reference) (cause : Error)
  | balanceDerived (account : AccountId) (balance : Money) (entries : Nat)
  | balanceMatched (record : ReconciliationId) (account : AccountId) (balance : Money)
  | balanceMismatched (record : ReconciliationId) (account : AccountId)
      (expected calculated difference : Money)
  /-- The database refused a reference that it has. -/
  | referenceStored (reference : Reference)
  | storeChosen (inMemory : Bool)
  | accountOpened (account : AccountId)
  | duplicateStarted (parallel : Nat) (reference : String)
  | submitting (attempt : Nat) (reference : String)
  | duplicateCompleted (requests unique : Nat)
  | retryStarted (retries : Nat) (delay : String) (reference : String)
  | retryAttempt (attempt : Nat)
  | retryCompleted (attempts unique : Nat)
  | shuffleStarted (count : Nat)
  | shuffleProcessing (reference : String)
  | shuffleCompleted (operations : Nat)
  | delayStarted (delay : String) (reference : String)
  | delayCompleted

namespace Event

open Log

/-- The error field of a failure, left out where its wording is not known. -/
def causeField (cause : Error) : List (String × Json) :=
  if cause.isWorded then [("error", .string cause.message)] else []

/-- The error field where it is left out. -/
def causeNames (cause : Error) : List String :=
  if cause.isWorded then [] else ["error"]

/-- The field for the time that a simulation took. -/
def elapsed : List String :=
  ["elapsed_ms"]

def line : Event → Line
  | .received reference kind amount source =>
    ⟨.info, .booking, "Operation received", [("reference", .string reference.text),
      ("kind", .string kind.name), ("amount", .string amount.toText), ("source", .string source)], []⟩
  | .duplicate operation reference status =>
    ⟨.info, .booking, "Duplicate operation detected, returning existing",
      [("operation_id", .string operation.toText), ("reference", .string reference.text),
        ("status", .string status.name)], []⟩
  | .unknownAccount reference account =>
    ⟨.warn, .booking, "Unknown account",
      [("reference", .string reference.text), ("account_id", .string account.toText)], []⟩
  | .entriesBuilt operation entries =>
    ⟨.debug, .booking, "Entries built",
      [("operation_id", .string operation.toText), ("entries", Json.nat entries)], []⟩
  | .processed operation reference entries =>
    ⟨.info, .booking, "Operation processed", [("operation_id", .string operation.toText),
      ("reference", .string reference.text), ("entries", Json.nat entries)], []⟩
  | .overtaken operation reference =>
    ⟨.info, .booking, "Concurrent duplicate detected, returning winning operation",
      [("operation_id", .string operation.toText), ("reference", .string reference.text)], []⟩
  | .ownerMissing reference =>
    ⟨.error, .booking, "Idempotency key conflict but no stored operation",
      [("reference", .string reference.text)], []⟩
  | .failed operation reference cause =>
    ⟨.error, .booking, "Operation failed", [("operation_id", .string operation.toText),
      ("reference", .string reference.text)] ++ causeField cause, causeNames cause⟩
  | .balanceDerived account balance entries =>
    ⟨.debug, .balances, "Balance derived", [("account_id", .string account.toText),
      ("balance", .string balance.toText), ("entries", Json.nat entries)], []⟩
  | .balanceMatched record account balance =>
    ⟨.info, .reconciliations, "Reconciliation matched",
      [("reconciliation_id", .string record.toText), ("account_id", .string account.toText),
        ("balance", .string balance.toText)], []⟩
  | .balanceMismatched record account expected calculated difference =>
    ⟨.warn, .reconciliations, "Reconciliation mismatch",
      [("reconciliation_id", .string record.toText), ("account_id", .string account.toText),
        ("expected", .string expected.toText), ("calculated", .string calculated.toText),
        ("difference", .string difference.toText)], []⟩
  | .referenceStored reference =>
    ⟨.debug, .database, "Idempotency key already stored",
      [("reference", .string reference.text)], []⟩
  | .storeChosen inMemory =>
    ⟨.info, .simulator, if inMemory then "Using in-memory store" else "Connected to database", [], []⟩
  | .accountOpened account =>
    ⟨.info, .scenarios, "Opened simulation account", [("account_id", .string account.toText)], []⟩
  | .duplicateStarted parallel reference =>
    ⟨.info, .scenarios, "Starting duplicate simulation",
      [("parallel", Json.nat parallel), ("reference", .string reference)], []⟩
  | .submitting attempt reference =>
    ⟨.debug, .scenarios, "Submitting request",
      [("attempt", Json.nat attempt), ("reference", .string reference)], []⟩
  | .duplicateCompleted requests unique =>
    ⟨.info, .scenarios, "Duplicate simulation completed",
      [("requests", Json.nat requests), ("unique_operations", Json.nat unique)], elapsed⟩
  | .retryStarted retries delay reference =>
    ⟨.info, .scenarios, "Starting retry simulation", [("retries", Json.nat retries),
      ("delay", .string delay), ("reference", .string reference)], []⟩
  | .retryAttempt attempt =>
    ⟨.debug, .scenarios, "Retry attempt", [("attempt", Json.nat attempt)], []⟩
  | .retryCompleted attempts unique =>
    ⟨.info, .scenarios, "Retry simulation completed",
      [("attempts", Json.nat attempts), ("unique_operations", Json.nat unique)], elapsed⟩
  | .shuffleStarted count =>
    ⟨.info, .scenarios, "Starting out-of-order simulation", [("count", Json.nat count)], []⟩
  | .shuffleProcessing reference =>
    ⟨.debug, .scenarios, "Processing shuffled operation", [("reference", .string reference)], []⟩
  | .shuffleCompleted operations =>
    ⟨.info, .scenarios, "Out-of-order simulation completed",
      [("operations", Json.nat operations)], elapsed⟩
  | .delayStarted delay reference =>
    ⟨.info, .scenarios, "Starting delayed simulation",
      [("delay", .string delay), ("reference", .string reference)], []⟩
  | .delayCompleted =>
    ⟨.info, .scenarios, "Delayed simulation completed", [], elapsed⟩

end Event
end Daybook
