import Daybook.Error
import Daybook.Stamp
import Daybook.Time.Text

/-!
Operations: what a caller asked for under a reference, and what became of it. An operation starts in
processing and moves once, to a final status; a move that is not allowed leaves it as it is.
-/

namespace Daybook

structure Operation where
  id : OperationId
  reference : Reference
  kind : Operation.Kind
  status : Operation.Status
  createdAt : Time
  processedAt : Option Time
  failureReason : Option String
deriving DecidableEq

namespace Operation

/-- A new operation in processing. -/
def start (stamp : Stamp) (reference : Reference) (kind : Kind) : Operation where
  id := ⟨stamp.id⟩
  reference := reference
  kind := kind
  status := .processing
  createdAt := stamp.time
  processedAt := none
  failureReason := none

/-- The reason on record for an operation that was ignored as a duplicate. -/
def duplicateReason : String :=
  "Duplicate operation detected"

/-- The move to a final status at a moment. -/
def move (op : Operation) (next : Status) (reason : Option String) (now : Time) :
    Except Error Operation :=
  if op.status.isTerminal then .error (.invalidTransition op.id op.status next)
  else .ok { op with status := next, processedAt := some now, failureReason := reason }

def markProcessed (op : Operation) (now : Time) : Except Error Operation :=
  if op.status = .processed then .error (.alreadyProcessed op.id)
  else op.move .processed none now

def markIgnored (op : Operation) (now : Time) : Except Error Operation :=
  op.move .ignored (some duplicateReason) now

def markFailed (op : Operation) (reason : String) (now : Time) : Except Error Operation :=
  op.move .failed (some reason) now

def toJson (op : Operation) : Json :=
  .object [
    ("id", op.id.toJson),
    ("reference", op.reference.toJson),
    ("kind", Named.toJson op.kind),
    ("status", Named.toJson op.status),
    ("created_at", op.createdAt.toJson),
    ("processed_at", Json.option Time.toJson op.processedAt),
    ("failure_reason", Json.option Json.string op.failureReason)]

end Operation
end Daybook
