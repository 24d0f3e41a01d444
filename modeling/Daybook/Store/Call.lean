import Daybook.Account
import Daybook.Operation
import Daybook.Reconciliation

/-!
The calls on a store. Reads and single writes take effect at once; an operation and its entries are
written through a draft, a unit of work that becomes visible as a whole when it is committed. What a
draft is, is the store's own affair: calls are parametric in the type of drafts, and every call that
writes to a draft answers with the draft as it is after the call.
-/

namespace Daybook

inductive Call (Draft : Type) where
  | insertAccount (account : Account)
  | findAccount (id : AccountId)
  | countAccounts
  /-- Answers whether there was such an account. -/
  | deleteAccount (id : AccountId)
  | findByReference (reference : Reference)
  | findOperation (id : OperationId)
  /-- Answers whether there was such an operation. -/
  | deleteOperation (id : OperationId)
  | begin
  | insertOperation (draft : Draft) (operation : Operation)
  | insertEntries (draft : Draft) (entries : List Entry)
  | updateOperation (draft : Draft) (operation : Operation)
  | commit (draft : Draft)
  /-- The entries of an account, oldest first. -/
  | entriesOf (account : AccountId)
  /-- The last entries of an account, newest first. -/
  | recentEntries (account : AccountId) (limit : Nat)
  | entriesUpTo (account : AccountId) (cutoff : Time)
  | entriesOfOperation (id : OperationId)
  | insertReconciliation (record : Reconciliation)
  | findReconciliation (id : ReconciliationId)
  /-- The records of an account, newest first. -/
  | reconciliationsOf (account : AccountId)
  | allReconciliations

namespace Call

/-- What a call answers with when it succeeds. -/
def Answer {Draft : Type} : Call Draft → Type
  | .insertAccount _ => Unit
  | .findAccount _ => Option Account
  | .countAccounts => Nat
  | .deleteAccount _ => Bool
  | .findByReference _ => Option Operation
  | .findOperation _ => Option Operation
  | .deleteOperation _ => Bool
  | .begin => Draft
  | .insertOperation _ _ => Draft
  | .insertEntries _ _ => Draft
  | .updateOperation _ _ => Draft
  | .commit _ => Draft
  | .entriesOf _ => List Entry
  | .recentEntries _ _ => List Entry
  | .entriesUpTo _ _ => List Entry
  | .entriesOfOperation _ => List Entry
  | .insertReconciliation _ => Unit
  | .findReconciliation _ => Option Reconciliation
  | .reconciliationsOf _ => List Reconciliation
  | .allReconciliations => List Reconciliation

abbrev Reply {Draft : Type} (c : Call Draft) : Type :=
  Except StoreError c.Answer

end Call
end Daybook
