import Daybook.Account
import Daybook.Database.Failure
import Daybook.Entry.Direction
import Daybook.Operation.Status
import Daybook.Reconciliation

/-!
The schema of the database: its types, tables, constraints and triggers as data, the statements that
set it up and take it down, and the relations between tables that the foreign keys make.
-/

namespace Daybook.Database

inductive TableName where
  | accounts | operations | entries | records
deriving DecidableEq

instance : Named TableName where
  noun := "table"
  all := [.accounts, .operations, .entries, .records]
  name
    | .accounts => "accounts"
    | .operations => "operations"
    | .entries => "entries"
    | .records => "reconciliation_records"

namespace Schema

/-- A column. One that is no key may be allowed to be empty, have a default, or name a row of
another table, which then cannot be deleted. -/
structure Column where
  name : String
  type : String
  isKey : Bool
  isOptional : Bool
  default : Option String
  parent : Option TableName

def Column.key : Column :=
  ⟨"id", "UUID", true, false, none, none⟩

def Column.required (name type : String) : Column :=
  ⟨name, type, false, false, none, none⟩

def Column.optional (name type : String) : Column :=
  ⟨name, type, false, true, none, none⟩

def Column.withDefault (c : Column) (value : String) : Column :=
  { c with default := some value }

/-- The column that names a row of the table. -/
def Column.naming (name : String) (parent : TableName) : Column :=
  ⟨name, "UUID", false, false, none, some parent⟩

inductive Constraint where
  | unique (name column : String)
  | check (name condition : String)
  /-- A check whose condition is written on lines of its own. -/
  | longCheck (name condition : String)

structure Table where
  name : TableName
  columns : List Column
  constraints : List Constraint
  /-- Each index with what it is on. -/
  indexes : List (String × String)

/-! ### The ledger -/

def createdAt : Column :=
  (Column.required "created_at" "TIMESTAMPTZ").withDefault "now()"

def accounts : Table where
  name := .accounts
  columns := [.key, .required "kind" "account_kind", createdAt]
  constraints := []
  indexes := []

def operations : Table where
  name := .operations
  columns := [.key, .required "idempotency_key" "VARCHAR(255)", .required "kind" "operation_kind",
    (Column.required "status" "operation_status").withDefault "'processing'", createdAt,
    .optional "processed_at" "TIMESTAMPTZ", .optional "failure_reason" "TEXT"]
  constraints := [
    .unique "uq_operations_idempotency_key" "idempotency_key",
    .check "chk_idempotency_key_format" "idempotency_key ~ '^[A-Za-z0-9_-]+$'",
    .longCheck "chk_processed_at" "(status = 'processing' AND processed_at IS NULL)
        OR (status <> 'processing' AND processed_at IS NOT NULL)"]
  indexes := []

def entries : Table where
  name := .entries
  columns := [.key, .naming "operation_id" .operations, .naming "account_id" .accounts,
    .required "amount" "NUMERIC(19, 4)", .required "currency" "CHAR(3)",
    .required "direction" "entry_direction", .required "entry_type" "entry_type",
    .required "source" "TEXT", createdAt]
  constraints := [
    .check "chk_entry_amount_non_zero" "amount <> 0",
    .longCheck "chk_entry_sign_matches_direction"
      "(direction = 'credit' AND amount > 0) OR (direction = 'debit' AND amount < 0)"]
  indexes := [("idx_entries_account_created", "entries(account_id, created_at, id)"),
    ("idx_entries_operation", "entries(operation_id)")]

def records : Table where
  name := .records
  columns := [.key, .naming "account_id" .accounts,
    .required "reconciliation_date" "TIMESTAMPTZ",
    .required "expected_balance" "NUMERIC(19, 4)",
    .required "calculated_balance" "NUMERIC(19, 4)", .required "difference" "NUMERIC(19, 4)",
    .required "currency" "CHAR(3)", .required "status" "reconciliation_status", createdAt]
  constraints := [
    .longCheck "chk_reconciliation_difference"
      "difference = expected_balance - calculated_balance",
    .check "chk_reconciliation_status" "(status = 'match') = (difference = 0)"]
  indexes := [("idx_reconciliation_account_created",
    "reconciliation_records(account_id, created_at DESC)")]

def tables : List Table :=
  [accounts, operations, entries, records]

/-- The tables whose rows are only ever added. -/
def appendOnly : List TableName :=
  [.entries, .records]

/-- The enumerated types with the names of their values. -/
def enumerations : List (String × List String) := [
  ("account_kind", (Named.all : List Account.Kind).map Named.name),
  ("operation_kind", (Named.all : List Operation.Kind).map Named.name),
  ("operation_status", (Named.all : List Operation.Status).map Named.name),
  ("entry_direction", (Named.all : List Entry.Direction).map Named.name),
  ("entry_type", (Named.all : List Entry.Purpose).map Named.name),
  ("reconciliation_status", (Named.all : List Reconciliation.Status).map Named.name)]

/-! ### Statements -/

def lines (parts : List String) : String :=
  "\n".intercalate parts

/-- More names than fit on a line stand on lines of their own. -/
def enumeration (type : String × List String) : String :=
  let names := type.2.map fun name => "'" ++ name ++ "'"
  let body :=
    if names.length ≤ 4 then ", ".intercalate names
    else "\n    " ++ ",\n    ".intercalate names ++ "\n"
  "CREATE TYPE " ++ type.1 ++ " AS ENUM (" ++ body ++ ");"

def Column.statement (c : Column) : String :=
  c.name ++ " " ++ c.type ++
    (if c.isKey then " PRIMARY KEY" else if c.isOptional then "" else " NOT NULL") ++
    c.default.elim "" (" DEFAULT " ++ ·) ++
    c.parent.elim "" (" REFERENCES " ++ Named.name · ++ "(id) ON DELETE RESTRICT")

def Constraint.statement : Constraint → String
  | .unique name column => "CONSTRAINT " ++ name ++ " UNIQUE (" ++ column ++ ")"
  | .check name condition => "CONSTRAINT " ++ name ++ " CHECK (" ++ condition ++ ")"
  | .longCheck name condition =>
    "CONSTRAINT " ++ name ++ " CHECK (\n        " ++ condition ++ "\n    )"

/-- Creates a table and its indexes. -/
def Table.statement (t : Table) : String :=
  let body := t.columns.map Column.statement ++ t.constraints.map Constraint.statement
  lines (("CREATE TABLE " ++ Named.name t.name ++ " (\n    " ++ ",\n    ".intercalate body ++
    "\n);") :: t.indexes.map fun (name, on) => "CREATE INDEX " ++ name ++ " ON " ++ on ++ ";")

def rejection : String :=
  "CREATE OR REPLACE FUNCTION reject_ledger_mutation()
RETURNS TRIGGER AS $$
BEGIN
    RAISE EXCEPTION '% rows are append-only', TG_TABLE_NAME;
END;
$$ LANGUAGE plpgsql;"

/-- Refuses to change or delete rows of the table. -/
def trigger (t : TableName) : String :=
  "CREATE TRIGGER trg_" ++ Named.name t ++ "_immutable
    BEFORE UPDATE OR DELETE ON " ++ Named.name t ++ "
    FOR EACH ROW EXECUTE FUNCTION reject_ledger_mutation();"

def dropping (what name : String) : String :=
  "DROP " ++ what ++ " IF EXISTS " ++ name ++ ";"

end Schema

/-! ### Migrations -/

/-- A step from one schema to the next, and back. -/
structure Migration where
  name : String
  up : List String
  down : List String

namespace Migration

def ledgerCore : Migration where
  name := "m20260301_000001_ledger_core"
  up := Schema.lines (Schema.enumerations.map Schema.enumeration) ::
    Schema.tables.map Schema.Table.statement ++
    [Schema.lines (Schema.rejection :: Schema.appendOnly.map Schema.trigger)]
  down := [Schema.lines (
    (Schema.tables.reverse.map fun t => Schema.dropping "TABLE" (Named.name t.name)) ++
    [Schema.dropping "FUNCTION" "reject_ledger_mutation()"] ++
    (Schema.enumerations.reverse.map fun e => Schema.dropping "TYPE" e.1))]

def all : List Migration :=
  [ledgerCore]

/-- Sends statements in turn until one fails: those that went through, and the failure. `execute`
gets the number of the statement. -/
def send (execute : Nat → String → Except Failure Unit) :
    Nat → List String → List String × Option Failure
  | _, [] => ([], none)
  | n, statement :: rest =>
    match execute n statement with
    | .error failure => ([], some failure)
    | .ok () =>
      let (sent, failure) := send execute (n + 1) rest
      (statement :: sent, failure)

end Migration

/-! ### Relations -/

/-- A relation seen from one of its tables. The owner is the table whose rows are named by those of
the other. -/
structure Relation where
  isOwner : Bool
  fromTable : TableName
  fromColumn : String
  toTable : TableName
  toColumn : String

namespace Relation

/-- The columns of a table that name rows of another, with the other table. -/
def keys (t : Schema.Table) : List (String × TableName) :=
  t.columns.filterMap fun c => c.parent.map fun parent => (c.name, parent)

/-- The relations in which rows of the table name others. -/
def owned (t : Schema.Table) : List Relation :=
  (keys t).map fun (column, parent) => ⟨false, t.name, column, parent, "id"⟩

/-- The relations in which rows of the table are named. -/
def owning (parent : TableName) : List Relation :=
  Schema.tables.flatMap fun t =>
    ((keys t).filter (·.2 = parent)).map fun (column, _) => ⟨true, parent, "id", t.name, column⟩

/-- All relations of a table. -/
def ofTable (name : TableName) : List Relation :=
  owning name ++ (Schema.tables.filter (·.name = name)).flatMap owned

/-- The relation with another table. -/
def between? (name other : TableName) : Option Relation :=
  (ofTable name).find? (·.toTable = other)

/-- What happens to a named row stands with the side that names it. -/
def toJson (r : Relation) : Json :=
  let onNamed := fun action : String => if r.isOwner then Json.null else .string action
  .object [
    ("kind", .string (if r.isOwner then "HasMany" else "HasOne")),
    ("from", .array [.string (Named.name r.fromTable), .string r.fromColumn]),
    ("to", .array [.string (Named.name r.toTable), .string r.toColumn]),
    ("owner", .bool r.isOwner),
    ("on_delete", onNamed "Restrict"),
    ("on_update", onNamed "NoAction")]

end Relation
end Daybook.Database
