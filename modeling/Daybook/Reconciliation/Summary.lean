import Daybook.Reconciliation

/-!
An overview of many reconciliations: how many accounts have a mismatch, the largest difference in
either direction, and the first records of the list.
-/

namespace Daybook

structure Summary where
  totalAccounts : Nat
  accountsWithMismatch : Nat
  largestDifference : Money
  recent : List Reconciliation

namespace Summary

/-- The accounts that have a mismatch, each once. -/
def mismatchedAccounts (records : List Reconciliation) : List AccountId :=
  ((records.filter fun r => !r.isMatch).map (·.account)).eraseDups

/-- The greater amount by value; of equal ones the second. -/
def larger (a b : Money) : Money :=
  if b.amount.lt a.amount then a else b

/-- The largest magnitude of a difference, the last one of equals; zero without records. -/
def largest (records : List Reconciliation) (currency : Currency) : Money :=
  match records.map fun r => r.difference.abs with
  | [] => Money.zero currency
  | m :: ms => ms.foldl larger m

def of (totalAccounts : Nat) (records : List Reconciliation) (limit : Nat) (currency : Currency) :
    Summary where
  totalAccounts := totalAccounts
  accountsWithMismatch := (mismatchedAccounts records).length
  largestDifference := largest records currency
  recent := records.take limit

def toJson (s : Summary) : Json :=
  .object [
    ("total_accounts", Json.nat s.totalAccounts),
    ("accounts_with_mismatch", Json.nat s.accountsWithMismatch),
    ("largest_difference", s.largestDifference.toJson),
    ("recent", .array (s.recent.map Reconciliation.toJson))]

end Summary
end Daybook
