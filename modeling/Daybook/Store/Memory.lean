import Daybook.Store.Script
import Daybook.Store.Table

/-!
A store kept in memory. Operations are found by id and, through an index, by reference; entries and
reconciliations are lists that only grow. A draft collects operations and entries, and a commit
checks all of them against the store before it takes any.
-/

namespace Daybook

structure Memory where
  accounts : Table AccountId Account
  operations : Table OperationId Operation
  /-- The operation that owns a reference. -/
  owners : Table Reference OperationId
  entries : List Entry
  reconciliations : List Reconciliation

/-- What a unit of work in memory holds back until it is committed. -/
structure MemoryDraft where
  operations : List Operation
  entries : List Entry
  committed : Bool

namespace MemoryDraft

def empty : MemoryDraft :=
  ⟨[], [], false⟩

end MemoryDraft

namespace Memory

def empty : Memory :=
  ⟨.empty, .empty, .empty, [], []⟩

/-- How many accounts, operations, entries and reconciliations there are. -/
def sizes (m : Memory) : List Nat :=
  [m.accounts.size, m.operations.size, m.entries.length, m.reconciliations.length]

/-! ### Accounts and operations -/

def insertAccount (m : Memory) (a : Account) : Except StoreError Memory :=
  if m.accounts.contains a.id then
    .error (.constraint ("account " ++ a.id.toText ++ " already exists"))
  else .ok { m with accounts := m.accounts.insert a.id a }

/-- An entry or a record names the account. -/
def usesAccount (m : Memory) (id : AccountId) : Bool :=
  m.entries.any (·.account == id) || m.reconciliations.any (·.account == id)

def deleteAccount (m : Memory) (id : AccountId) : Except StoreError (Bool × Memory) :=
  if m.usesAccount id then .error (.referenced "account" id.toText)
  else .ok (m.accounts.contains id, { m with accounts := m.accounts.erase id })

def findByReference (m : Memory) (r : Reference) : Option Operation :=
  (m.owners.get? r).bind m.operations.get?

def usesOperation (m : Memory) (id : OperationId) : Bool :=
  m.entries.any (·.operation == id)

def deleteOperation (m : Memory) (id : OperationId) : Except StoreError (Bool × Memory) :=
  if m.usesOperation id then .error (.referenced "operation" id.toText)
  else
    match m.operations.get? id with
    | some op =>
      .ok (true, { m with operations := m.operations.erase id, owners := m.owners.erase op.reference })
    | none => .ok (false, m)

/-! ### Entries and records -/

/-- The entries of an account, oldest first; of one moment in the order in which they came. -/
def entriesOf (m : Memory) (id : AccountId) : List Entry :=
  (m.entries.filter (·.account == id)).mergeSort fun a b => a.createdAt.le b.createdAt

def recentEntries (m : Memory) (id : AccountId) (limit : Nat) : List Entry :=
  (m.entriesOf id).reverse.take limit

def entriesOfOperation (m : Memory) (id : OperationId) : List Entry :=
  m.entries.filter (·.operation == id)

/-- The records, newest first; of one moment in the order in which they came. -/
def newestFirst (rs : List Reconciliation) : List Reconciliation :=
  rs.mergeSort fun a b => b.createdAt.le a.createdAt

def insertReconciliation (m : Memory) (r : Reconciliation) : Except StoreError Memory :=
  if !m.accounts.contains r.account then
    .error (.constraint ("reconciliation references unknown account " ++ r.account.toText))
  else if m.reconciliations.any (·.id == r.id) then
    .error (.constraint ("reconciliation " ++ r.id.toText ++ " already exists"))
  else .ok { m with reconciliations := m.reconciliations ++ [r] }

def findReconciliation (m : Memory) (id : ReconciliationId) : Option Reconciliation :=
  m.reconciliations.find? (·.id == id)

/-! ### Units of work -/

/-- No other operation owns the reference. -/
def checkReference (m : Memory) (op : Operation) : Except StoreError Unit :=
  match m.owners.get? op.reference with
  | some owner =>
    if owner = op.id then .ok () else .error (.duplicateReference op.reference.text)
  | none => .ok ()

def insertOperation (m : Memory) (d : MemoryDraft) (op : Operation) :
    Except StoreError MemoryDraft := do
  m.checkReference op
  if d.operations.any (·.reference == op.reference) then
    .error (.duplicateReference op.reference.text)
  else return { d with operations := d.operations ++ [op] }

def insertEntries (d : MemoryDraft) (es : List Entry) : MemoryDraft :=
  { d with entries := d.entries ++ es }

/-- The list with the first element that satisfies `p` replaced. -/
def replaceFirst {α : Type} (p : α → Bool) (a : α) : List α → List α
  | [] => []
  | b :: bs => if p b then a :: bs else b :: replaceFirst p a bs

/-- Replaces an operation of the draft, or takes a stored one with the same reference into it. -/
def updateOperation (m : Memory) (d : MemoryDraft) (op : Operation) :
    Except StoreError MemoryDraft :=
  if d.operations.any (·.id == op.id) then
    .ok { d with operations := replaceFirst (·.id == op.id) op d.operations }
  else
    match m.operations.get? op.id with
    | some stored =>
      if stored.reference = op.reference then .ok { d with operations := d.operations ++ [op] }
      else
        .error (.constraint
          ("operation " ++ op.id.toText ++ " cannot change its idempotency key"))
    | none => .error (.constraint ("operation " ++ op.id.toText ++ " does not exist"))

/-- The operation and the account of the entry are there. -/
def checkEntry (m : Memory) (pending : List Operation) (e : Entry) : Except StoreError Unit :=
  if !(m.operations.contains e.operation || pending.any (·.id == e.operation)) then
    .error (.constraint ("entry " ++ e.id.toText ++ " references unknown operation " ++
      e.operation.toText))
  else if !m.accounts.contains e.account then
    .error (.constraint ("entry " ++ e.id.toText ++ " references unknown account " ++
      e.account.toText))
  else .ok ()

/-- Stores one operation under its id and its reference. -/
def put (m : Memory) (op : Operation) : Memory :=
  { m with
    owners := m.owners.insert op.reference op.id
    operations := m.operations.insert op.id op }

/-- All operations and entries of the draft, without any check. -/
def apply (m : Memory) (d : MemoryDraft) : Memory :=
  let m := d.operations.foldl put m
  { m with entries := m.entries ++ d.entries }

/-- Checks the whole draft, then takes it; the draft is empty afterwards. -/
def commit (m : Memory) (d : MemoryDraft) : Except StoreError (MemoryDraft × Memory) := do
  if d.committed then .error (.backend "unit of work already committed")
  else
    d.operations.forM m.checkReference
    d.entries.forM (m.checkEntry d.operations)
    return (⟨[], [], true⟩, m.apply d)

/-! ### The calls -/

/-- A reply with the state after it; an error changes nothing. -/
def changed {α : Type} (m : Memory) (r : Except StoreError (α × Memory)) :
    Except StoreError α × Memory :=
  match r with
  | .ok (a, m) => (.ok a, m)
  | .error e => (.error e, m)

def answer (m : Memory) : (c : Call MemoryDraft) → c.Reply × Memory
  | .insertAccount a => m.changed ((m.insertAccount a).map ((), ·))
  | .findAccount id => (.ok (m.accounts.get? id), m)
  | .countAccounts => (.ok m.accounts.size, m)
  | .deleteAccount id => m.changed (m.deleteAccount id)
  | .findByReference r => (.ok (m.findByReference r), m)
  | .findOperation id => (.ok (m.operations.get? id), m)
  | .deleteOperation id => m.changed (m.deleteOperation id)
  | .begin => (.ok .empty, m)
  | .insertOperation d op => (m.insertOperation d op, m)
  | .insertEntries d es => (.ok (insertEntries d es), m)
  | .updateOperation d op => (m.updateOperation d op, m)
  | .commit d => m.changed (m.commit d)
  | .entriesOf id => (.ok (m.entriesOf id), m)
  | .recentEntries id limit => (.ok (m.recentEntries id limit), m)
  | .entriesUpTo id cutoff => (.ok (Entry.upTo cutoff (m.entriesOf id)), m)
  | .entriesOfOperation id => (.ok (m.entriesOfOperation id), m)
  | .insertReconciliation r => m.changed ((m.insertReconciliation r).map ((), ·))
  | .findReconciliation id => (.ok (m.findReconciliation id), m)
  | .reconciliationsOf id =>
    (.ok (newestFirst (m.reconciliations.filter (·.account == id))), m)
  | .allReconciliations => (.ok (newestFirst m.reconciliations), m)

/-- The store in memory reports nothing. -/
def backend : Backend Memory MemoryDraft where
  act c m :=
    let (reply, m) := m.answer c
    (reply, [], m)

end Memory
end Daybook
