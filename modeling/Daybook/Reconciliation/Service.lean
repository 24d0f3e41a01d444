import Daybook.Balance
import Daybook.Reconciliation.Divergence
import Daybook.Reconciliation.Summary

/-!
Reconciling accounts over a store: comparing an expected balance with the calculated one and keeping
the result, reading the results back, and looking into one of them. Only `reconcile` writes, and it
writes the one record.
-/

namespace Daybook.Reconciliation

variable {Draft : Type}

/-- The log event of a new record. -/
def event (r : Reconciliation) : Event :=
  if r.isMatch then .balanceMatched r.id r.account r.calculated
  else .balanceMismatched r.id r.account r.expected r.calculated r.difference

def keep (r : Reconciliation) : Script Draft (Except Error Reconciliation) :=
  .call (.insertReconciliation r) fun reply =>
    Script.andThen reply fun _ => .emit r.event (.done (.ok r))

/-- Compares what is expected with what the entries come to. -/
def reconcile (stamp : Stamp) (currency : Currency) (account : AccountId) (expected : Decimal) :
    Script Draft (Except Error Reconciliation) :=
  let expectedBalance := Money.new expected currency
  if !expectedBalance.isStorable then .done (.error (.amountOutOfRange expected))
  else
    Balance.requireAccount account <|
      .call (.entriesOf account) fun reply =>
        Script.andThen reply fun es =>
          match Entry.total currency es with
          | .error cause => .done (.error (.money cause))
          | .ok calculated =>
            match compare stamp account expectedBalance calculated with
            | .error cause => .done (.error cause)
            | .ok record => keep record

/-- The records of an account, newest first. -/
def history (account : AccountId) : Script Draft (Except Error (List Reconciliation)) :=
  Balance.requireAccount account <|
    .call (.reconciliationsOf account) fun reply =>
      Script.andThen reply fun rs => .done (.ok rs)

def summary (currency : Currency) (limit : Nat) : Script Draft (Except Error Summary) :=
  .call .countAccounts fun reply =>
    Script.andThen reply fun total =>
      .call .allReconciliations fun reply =>
        Script.andThen reply fun rs => .done (.ok (Summary.of total rs limit currency))

/-- Looks into a record, with the last entries of its account. -/
def analyze (id : ReconciliationId) (limit : Nat) :
    Script Draft (Except Error DivergenceReport) :=
  .call (.findReconciliation id) fun reply =>
    Script.andThen reply fun found =>
      match found with
      | none => .done (.error (.reconciliationNotFound id))
      | some record =>
        .call (.recentEntries record.account limit) fun reply =>
          Script.andThen reply fun es => .done (.ok (DivergenceReport.of record es))

end Daybook.Reconciliation
