import Daybook.Database.Failure
import Daybook.Database.Row
import Daybook.Database.Schema
import Daybook.Decimal.Binary
import Daybook.Store.Script

/-!
A store in a relational database. Its rules are those of the tables: ids and keys are unique, and
entries and records name rows that exist and keep them from being deleted. A draft is a transaction:
a write is checked when it is made, against the tables and the transaction, and seen by nobody else
before the commit. Rows are read back through their checks, one bad row spoiling the whole list.
Columns have types for amounts and times, or else they keep amounts as binary numbers and times as
texts, which are then in the order of texts. Where the database refuses, its wording is not known
here.
-/

namespace Daybook

namespace Database

/-- How columns keep amounts and times. -/
inductive Columns where
  | typed
  /-- An amount is a binary number, a time a text. -/
  | untyped
deriving DecidableEq

/-- The text of a time in a column, with its offset in digits. -/
def timeText (t : Time) : String :=
  String.ofList (t.clockChars ++ ['+', '0', '0', ':', '0', '0'])

/-- The order of times in a column. -/
def Columns.timeLe : Columns → Time → Time → Bool
  | .typed, a, b => a.le b
  | .untyped, a, b => timeText a ≤ timeText b

/-- New values for the columns of an operation that can change. -/
structure StatusChange where
  id : Uuid
  status : Operation.Status
  processedAt : Option Time
  failureReason : Option String

def StatusChange.ofOperation (op : Operation) : StatusChange :=
  ⟨op.id.uuid, op.status, op.processedAt, op.failureReason⟩

/-- Changes the row if it has the id. -/
def StatusChange.apply (change : StatusChange) (r : OperationRow) : OperationRow :=
  if r.id = change.id then
    { r with
      status := change.status
      processedAt := change.processedAt
      failureReason := change.failureReason }
  else r

/-- An open transaction, or a committed one, which takes no more writes. -/
structure Transaction where
  operations : List OperationRow
  changes : List StatusChange
  entries : List EntryRow
  committed : Bool

def Transaction.empty : Transaction :=
  ⟨[], [], [], false⟩

end Database

/-- The tables. A table can be out of order, and the connection can be closed. A call that cannot be
put to the database stops its program; that one did is kept. -/
structure Database where
  accounts : List Database.AccountRow
  operations : List Database.OperationRow
  entries : List Database.EntryRow
  records : List Database.RecordRow
  columns : Database.Columns
  broken : List Database.TableName
  closed : Bool
  stopped : Bool

namespace Database

def empty (columns : Columns) : Database :=
  ⟨[], [], [], [], columns, [], false, false⟩

/-- A constraint is violated. -/
def violation : StoreError :=
  .constraint none

/-- The database does not work. -/
def outage : StoreError :=
  .backend none

/-- The table can be read and written. -/
def reach (db : Database) (table : TableName) : Except StoreError Unit :=
  if db.closed || db.broken.contains table then .error outage else .ok ()

/-- How many rows the tables have, as far as they can be read. -/
def sizes (db : Database) : List (Option Nat) :=
  let size := fun (table : TableName) (n : Nat) => (db.reach table).toOption.map fun _ => n
  [size .accounts db.accounts.length, size .operations db.operations.length,
    size .entries db.entries.length, size .records db.records.length]

/-! ### Accounts and operations -/

def hasAccount (db : Database) (id : Uuid) : Bool :=
  db.accounts.any (·.id == id)

def insertAccount (db : Database) (row : AccountRow) : Except StoreError Database := do
  db.reach .accounts
  if db.hasAccount row.id then .error violation
  else return { db with accounts := db.accounts ++ [row] }

def findAccount (db : Database) (id : Uuid) : Except StoreError (Option Account) := do
  db.reach .accounts
  return (db.accounts.find? (·.id == id)).map AccountRow.toAccount

def countAccounts (db : Database) : Except StoreError Nat := do
  db.reach .accounts
  return db.accounts.length

def deleteAccount (db : Database) (id : Uuid) : Except StoreError (Bool × Database) := do
  db.reach .accounts
  if db.hasAccount id then
    if db.entries.any (·.account == id) || db.records.any (·.account == id) then
      .error (.referenced "account" id.toText)
    else return (true, { db with accounts := db.accounts.filter (·.id != id) })
  else return (false, db)

def findByKey (db : Database) (key : String) : Except StoreError (Option Operation) := do
  db.reach .operations
  (db.operations.find? (·.key == key)).mapM OperationRow.toOperation

def findOperation (db : Database) (id : Uuid) : Except StoreError (Option Operation) := do
  db.reach .operations
  (db.operations.find? (·.id == id)).mapM OperationRow.toOperation

def deleteOperation (db : Database) (id : Uuid) : Except StoreError (Bool × Database) := do
  db.reach .operations
  if db.operations.any (·.id == id) then
    if db.entries.any (·.operation == id) then .error (.referenced "operation" id.toText)
    else return (true, { db with operations := db.operations.filter (·.id != id) })
  else return (false, db)

/-! ### Entries and records

Lists are sorted by time, then by id. -/

def entryLe (columns : Columns) (a b : EntryRow) : Bool :=
  if a.createdAt = b.createdAt then a.id.le b.id else columns.timeLe a.createdAt b.createdAt

def recordLe (columns : Columns) (a b : RecordRow) : Bool :=
  if a.createdAt = b.createdAt then a.id.le b.id else columns.timeLe a.createdAt b.createdAt

/-- The decimal as its column gives it back. -/
def fetch (db : Database) (d : Decimal) : Except StoreError Decimal :=
  match db.columns with
  | .typed => .ok d
  | .untyped => d.throughBinary?.elim (.error outage) .ok

def fetchEntry (db : Database) (r : EntryRow) : Except StoreError EntryRow := do
  return { r with amount := ← db.fetch r.amount }

def fetchRecord (db : Database) (r : RecordRow) : Except StoreError RecordRow := do
  return { r with
    expected := ← db.fetch r.expected
    calculated := ← db.fetch r.calculated
    difference := ← db.fetch r.difference }

def readEntries (db : Database) (rows : List EntryRow) : Except StoreError (List Entry) := do
  (← rows.mapM db.fetchEntry).mapM EntryRow.toEntry

def entriesOf (db : Database) (account : Uuid) : Except StoreError (List Entry) := do
  db.reach .entries
  db.readEntries ((db.entries.filter (·.account == account)).mergeSort (entryLe db.columns))

def recentEntries (db : Database) (account : Uuid) (limit : Nat) :
    Except StoreError (List Entry) := do
  db.reach .entries
  let rows := (db.entries.filter (·.account == account)).mergeSort fun a b => entryLe db.columns b a
  db.readEntries (rows.take limit)

/-- The limit can be put to the database, as a signed number of 64 bits. -/
def takesLimit (limit : Nat) : Bool :=
  limit < twos 63

def entriesUpTo (db : Database) (account : Uuid) (cutoff : Time) :
    Except StoreError (List Entry) := do
  db.reach .entries
  let rows := db.entries.filter fun r =>
    r.account == account && db.columns.timeLe r.createdAt cutoff
  db.readEntries (rows.mergeSort (entryLe db.columns))

def entriesOfOperation (db : Database) (id : Uuid) : Except StoreError (List Entry) := do
  db.reach .entries
  db.readEntries ((db.entries.filter (·.operation == id)).mergeSort (entryLe db.columns))

def insertRecord (db : Database) (row : RecordRow) : Except StoreError Database := do
  db.reach .records
  if db.records.any (·.id == row.id) || !db.hasAccount row.account then .error violation
  else return { db with records := db.records ++ [row] }

def findRecord (db : Database) (id : Uuid) : Except StoreError (Option Reconciliation) := do
  db.reach .records
  (← (db.records.find? (·.id == id)).mapM db.fetchRecord).mapM RecordRow.toReconciliation

/-- The records, newest first. -/
def listRecords (db : Database) (p : RecordRow → Bool) :
    Except StoreError (List Reconciliation) := do
  db.reach .records
  let rows := (db.records.filter p).mergeSort fun a b => recordLe db.columns b a
  (← rows.mapM db.fetchRecord).mapM RecordRow.toReconciliation

/-! ### Rows from elsewhere

Only the keys of these rows are checked; what they hold is found out when they are read. -/

def insertForeignOperation (db : Database) (row : OperationRow) : Except StoreError Database := do
  db.reach .operations
  if db.operations.any fun r => r.id == row.id || r.key == row.key then .error violation
  else return { db with operations := db.operations ++ [row] }

def insertForeignEntry (db : Database) (row : EntryRow) : Except StoreError Database := do
  db.reach .entries
  if db.entries.any (·.id == row.id) || !db.operations.any (·.id == row.operation) ||
      !db.hasAccount row.account then
    .error violation
  else return { db with entries := db.entries ++ [row] }

/-! ### Transactions -/

def alreadyCommitted : StoreError :=
  .backend "unit of work already committed"

/-- The transaction takes writes. -/
def requireOpen (t : Transaction) : Except StoreError Unit :=
  if t.committed then .error alreadyCommitted else .ok ()

def begin (db : Database) : Except StoreError Transaction :=
  if db.closed then .error outage else .ok .empty

def insertOperation (db : Database) (t : Transaction) (row : OperationRow) :
    Except StoreError Transaction := do
  requireOpen t
  db.reach .operations
  if (db.operations ++ t.operations).any (·.key == row.key) then
    .error (.duplicateReference row.key)
  else if (db.operations ++ t.operations).any (·.id == row.id) then .error violation
  else return { t with operations := t.operations ++ [row] }

/-- The entry names an operation and an account that exist, seen from the transaction. -/
def hasParents (db : Database) (t : Transaction) (row : EntryRow) : Bool :=
  (db.operations ++ t.operations).any (·.id == row.operation) && db.hasAccount row.account

/-- No two rows have one id. -/
def distinctIds : List EntryRow → Bool
  | [] => true
  | r :: rs => !rs.any (·.id == r.id) && distinctIds rs

/-- Inserts all rows or none; inserting nothing does not touch the table. -/
def insertEntries (db : Database) (t : Transaction) (rows : List EntryRow) :
    Except StoreError Transaction := do
  requireOpen t
  if rows.isEmpty then return t
  else
    db.reach .entries
    let taken := fun r : EntryRow => (db.entries ++ t.entries).any (·.id == r.id)
    if rows.all (hasParents db t) && !rows.any taken && distinctIds rows then
      return { t with entries := t.entries ++ rows }
    else .error violation

/-- Changes the status columns of a row of the transaction or of the table. -/
def updateOperation (db : Database) (t : Transaction) (change : StatusChange) :
    Except StoreError Transaction := do
  requireOpen t
  db.reach .operations
  if t.operations.any (·.id == change.id) then
    return { t with operations := t.operations.map change.apply }
  else if db.operations.any (·.id == change.id) then
    return { t with changes := t.changes ++ [change] }
  else .error Failure.notUpdated.toStoreError

def applyChanges (changes : List StatusChange) (rows : List OperationRow) : List OperationRow :=
  changes.foldl (fun rows change => rows.map change.apply) rows

def commit (db : Database) (t : Transaction) : Except StoreError (Transaction × Database) := do
  requireOpen t
  return ({ Transaction.empty with committed := true },
    { db with
      operations := applyChanges t.changes db.operations ++ t.operations
      entries := db.entries ++ t.entries })

/-! ### The calls -/

/-- A reply with the state after it; an error changes nothing. -/
def changed {α : Type} (db : Database) (r : Except StoreError (α × Database)) :
    Except StoreError α × Database :=
  match r with
  | .ok (a, db) => (.ok a, db)
  | .error e => (.error e, db)

def answer (db : Database) : (c : Call Transaction) → c.Reply × Database
  | .insertAccount a => db.changed ((db.insertAccount (.ofAccount a)).map ((), ·))
  | .findAccount id => (db.findAccount id.uuid, db)
  | .countAccounts => (db.countAccounts, db)
  | .deleteAccount id => db.changed (db.deleteAccount id.uuid)
  | .findByReference r => (db.findByKey r.text, db)
  | .findOperation id => (db.findOperation id.uuid, db)
  | .deleteOperation id => db.changed (db.deleteOperation id.uuid)
  | .begin => (db.begin, db)
  | .insertOperation t op => (db.insertOperation t (.ofOperation op), db)
  | .insertEntries t es => (db.insertEntries t (es.map .ofEntry), db)
  | .updateOperation t op => (db.updateOperation t (.ofOperation op), db)
  | .commit t => db.changed (db.commit t)
  | .entriesOf id => (db.entriesOf id.uuid, db)
  | .recentEntries id limit =>
    if db.closed || takesLimit limit then (db.recentEntries id.uuid limit, db)
    else (.error outage, { db with stopped := true })
  | .entriesUpTo id cutoff => (db.entriesUpTo id.uuid cutoff, db)
  | .entriesOfOperation id => (db.entriesOfOperation id.uuid, db)
  | .insertReconciliation r =>
    db.changed ((db.insertRecord (.ofReconciliation r)).map ((), ·))
  | .findReconciliation id => (db.findRecord id.uuid, db)
  | .reconciliationsOf id => (db.listRecords (·.account == id.uuid), db)
  | .allReconciliations => (db.listRecords fun _ => true, db)

/-- What the database reports: that it refused a reference because it has it. -/
def events : (c : Call Transaction) → c.Reply → List Event
  | .insertOperation _ op, .error (.duplicateReference _) => [.referenceStored op.reference]
  | _, _ => []

def backend : Backend Database Transaction where
  act c db :=
    let (reply, db) := db.answer c
    (reply, events c reply, db)

end Database
end Daybook
