import Daybook.Database

/-!
A database in which no table was made. It opens and closes transactions, and refuses every call that
needs a table.
-/

namespace Daybook.Database.Bare

/-- How a call uses a table. -/
inductive Access where
  | reading | writing

/-- The table is not there. -/
def refused {α : Type} (access : Access) (t : TableName) : Except StoreError α :=
  let text := "error returned from database: (code: 1) no such table: " ++ Named.name t
  .error (match access with
    | .reading => Failure.query text
    | .writing => Failure.execution text).toStoreError

def reply : (c : Call Transaction) → c.Reply
  | .insertAccount _ => refused .writing .accounts
  | .findAccount _ => refused .reading .accounts
  | .countAccounts => refused .reading .accounts
  | .deleteAccount _ => refused .writing .accounts
  | .findByReference _ => refused .reading .operations
  | .findOperation _ => refused .reading .operations
  | .deleteOperation _ => refused .writing .operations
  | .begin => .ok .empty
  | .insertOperation _ _ => refused .writing .operations
  | .insertEntries _ _ => refused .writing .entries
  | .updateOperation _ _ => refused .writing .operations
  | .commit t => .ok { t with committed := true }
  | .entriesOf _ => refused .reading .entries
  | .recentEntries _ _ => refused .reading .entries
  | .entriesUpTo _ _ => refused .reading .entries
  | .entriesOfOperation _ => refused .reading .entries
  | .insertReconciliation _ => refused .writing .records
  | .findReconciliation _ => refused .reading .records
  | .reconciliationsOf _ => refused .reading .records
  | .allReconciliations => refused .reading .records

def backend : Backend Unit Transaction where
  act c _ := (reply c, [], ())

end Daybook.Database.Bare
