import Daybook.Account
import Daybook.Operation
import Daybook.Reconciliation

/-!
The rows of the database and what they stand for. Writing a value to its row always works. A row is
read back through the same checks as any other input, so that a row that breaks a rule of the ledger
is reported as corrupt and never becomes a value.
-/

namespace Daybook.Database

structure AccountRow where
  id : Uuid
  kind : Account.Kind
  createdAt : Time
deriving DecidableEq

structure OperationRow where
  id : Uuid
  key : String
  kind : Operation.Kind
  status : Operation.Status
  createdAt : Time
  processedAt : Option Time
  failureReason : Option String
deriving DecidableEq

structure EntryRow where
  id : Uuid
  operation : Uuid
  account : Uuid
  amount : Decimal
  currency : String
  direction : Entry.Direction
  purpose : Entry.Purpose
  source : String
  createdAt : Time
deriving DecidableEq

structure RecordRow where
  id : Uuid
  account : Uuid
  date : Time
  expected : Decimal
  calculated : Decimal
  difference : Decimal
  currency : String
  status : Reconciliation.Status
  createdAt : Time
deriving DecidableEq

/-- Reads the code of a currency; the error shows it without the blanks around it. -/
def readCurrency (code : String) : Except StoreError Currency :=
  (Currency.ofText (Text.trim code)).mapError fun e => .corrupt e.message

/-! ### Accounts -/

def AccountRow.ofAccount (a : Account) : AccountRow :=
  ⟨a.id.uuid, a.kind, a.createdAt⟩

def AccountRow.toAccount (r : AccountRow) : Account :=
  ⟨⟨r.id⟩, r.kind, r.createdAt⟩

theorem AccountRow.toAccount_ofAccount (a : Account) : (ofAccount a).toAccount = a :=
  rfl

/-! ### Operations -/

def OperationRow.ofOperation (op : Operation) : OperationRow :=
  ⟨op.id.uuid, op.reference.text, op.kind, op.status, op.createdAt, op.processedAt,
    op.failureReason⟩

def OperationRow.toOperation (r : OperationRow) : Except StoreError Operation :=
  match Reference.parse r.key with
  | .ok reference =>
    .ok ⟨⟨r.id⟩, reference, r.kind, r.status, r.createdAt, r.processedAt, r.failureReason⟩
  | .error cause => .error (.corrupt ("operation " ++ r.id.toText ++ ": " ++ cause.message))

/-! ### Entries -/

def EntryRow.ofEntry (e : Entry) : EntryRow :=
  ⟨e.id.uuid, e.operation.uuid, e.account.uuid, e.amount.amount, e.amount.currency.code,
    e.direction, e.purpose, e.source, e.createdAt⟩

def EntryRow.toEntry (r : EntryRow) : Except StoreError Entry := do
  let currency ← readCurrency r.currency
  (Entry.make ⟨r.id, r.createdAt⟩ ⟨r.operation⟩ ⟨r.account⟩ (Money.new r.amount currency)
    r.direction r.purpose r.source).mapError fun cause =>
      .corrupt ("entry " ++ r.id.toText ++ ": " ++ cause.message)

/-! ### Records of reconciliations -/

def RecordRow.ofReconciliation (r : Reconciliation) : RecordRow :=
  ⟨r.id.uuid, r.account.uuid, r.date, r.expected.amount, r.calculated.amount,
    r.difference.amount, r.expected.currency.code, r.status, r.createdAt⟩

def RecordRow.toReconciliation (r : RecordRow) : Except StoreError Reconciliation := do
  let currency ← readCurrency r.currency
  (Reconciliation.restore ⟨r.id⟩ ⟨r.account⟩ r.date (Money.new r.expected currency)
    (Money.new r.calculated currency) (Money.new r.difference currency) r.status
    r.createdAt).mapError fun cause =>
      .corrupt ("reconciliation record " ++ r.id.toText ++ ": " ++ cause.message)

/-! ### JSON -/

def AccountRow.toJson (r : AccountRow) : Json :=
  .object [("id", .string r.id.toText), ("kind", Named.toJson r.kind),
    ("created_at", r.createdAt.toJson)]

def OperationRow.toJson (r : OperationRow) : Json :=
  .object [
    ("id", .string r.id.toText),
    ("idempotency_key", .string r.key),
    ("kind", Named.toJson r.kind),
    ("status", Named.toJson r.status),
    ("created_at", r.createdAt.toJson),
    ("processed_at", Json.option Time.toJson r.processedAt),
    ("failure_reason", Json.option Json.string r.failureReason)]

def EntryRow.toJson (r : EntryRow) : Json :=
  .object [
    ("id", .string r.id.toText),
    ("operation_id", .string r.operation.toText),
    ("account_id", .string r.account.toText),
    ("amount", r.amount.toJson),
    ("currency", .string r.currency),
    ("direction", Named.toJson r.direction),
    ("entry_type", Named.toJson r.purpose),
    ("source", .string r.source),
    ("created_at", r.createdAt.toJson)]

def RecordRow.toJson (r : RecordRow) : Json :=
  .object [
    ("id", .string r.id.toText),
    ("account_id", .string r.account.toText),
    ("reconciliation_date", r.date.toJson),
    ("expected_balance", r.expected.toJson),
    ("calculated_balance", r.calculated.toJson),
    ("difference", r.difference.toJson),
    ("currency", .string r.currency),
    ("status", Named.toJson r.status),
    ("created_at", r.createdAt.toJson)]

def OperationRow.ofJson? (j : Json) : Option OperationRow := do
  match ← j.fields? ["id", "idempotency_key", "kind", "status", "created_at", "processed_at",
    "failure_reason"] with
  | [id, key, kind, status, createdAt, processedAt, failureReason] =>
    some {
      id := ← Json.required Uuid.ofJson? id
      key := ← Json.required Json.string? key
      kind := ← Json.required Named.ofJson? kind
      status := ← Json.required Named.ofJson? status
      createdAt := ← Json.required Time.ofJson? createdAt
      processedAt := ← Json.optional Time.ofJson? processedAt
      failureReason := ← Json.optional Json.string? failureReason }
  | _ => none

def EntryRow.ofJson? (j : Json) : Option EntryRow := do
  match ← j.fields? ["id", "operation_id", "account_id", "amount", "currency", "direction",
    "entry_type", "source", "created_at"] with
  | [id, operation, account, amount, currency, direction, purpose, source, createdAt] =>
    some {
      id := ← Json.required Uuid.ofJson? id
      operation := ← Json.required Uuid.ofJson? operation
      account := ← Json.required Uuid.ofJson? account
      amount := ← Json.required Decimal.ofJson? amount
      currency := ← Json.required Json.string? currency
      direction := ← Json.required Named.ofJson? direction
      purpose := ← Json.required Named.ofJson? purpose
      source := ← Json.required Json.string? source
      createdAt := ← Json.required Time.ofJson? createdAt }
  | _ => none

def RecordRow.ofJson? (j : Json) : Option RecordRow := do
  match ← j.fields? ["id", "account_id", "reconciliation_date", "expected_balance",
    "calculated_balance", "difference", "currency", "status", "created_at"] with
  | [id, account, date, expected, calculated, difference, currency, status, createdAt] =>
    some {
      id := ← Json.required Uuid.ofJson? id
      account := ← Json.required Uuid.ofJson? account
      date := ← Json.required Time.ofJson? date
      expected := ← Json.required Decimal.ofJson? expected
      calculated := ← Json.required Decimal.ofJson? calculated
      difference := ← Json.required Decimal.ofJson? difference
      currency := ← Json.required Json.string? currency
      status := ← Json.required Named.ofJson? status
      createdAt := ← Json.required Time.ofJson? createdAt }
  | _ => none

end Daybook.Database
