import Daybook.Entry

/-!
Reconciliations: the balance that somebody expects of an account, set against the balance that its
entries come to. The difference is what is expected less what is calculated, the status tells
whether it is zero, and a record in which the three disagree cannot be made.
-/

namespace Daybook

inductive Reconciliation.Status where
  | matching | mismatch
deriving DecidableEq

namespace Reconciliation.Status

def name : Reconciliation.Status → String
  | .matching => "match"
  | .mismatch => "mismatch"

instance : Named Reconciliation.Status where
  noun := "reconciliation status"
  all := [.matching, .mismatch]
  name := name

/-- The status that a difference has. -/
def ofDifference (difference : Money) : Reconciliation.Status :=
  if difference.isZero then .matching else .mismatch

end Reconciliation.Status

/-- The difference is what expected and calculated give, and the status is its status. -/
def Reconciliation.isConsistent (expected calculated difference : Money)
    (status : Reconciliation.Status) : Bool :=
  match expected.sub calculated with
  | .ok derived => derived.same difference && status == .ofDifference difference
  | .error _ => false

structure Reconciliation where
  id : ReconciliationId
  account : AccountId
  date : Time
  expected : Money
  calculated : Money
  difference : Money
  status : Reconciliation.Status
  createdAt : Time
  consistent : Reconciliation.isConsistent expected calculated difference status = true
deriving DecidableEq

namespace Reconciliation

theorem isConsistent_sub {expected calculated difference : Money}
    (h : expected.sub calculated = .ok difference) :
    isConsistent expected calculated difference (.ofDifference difference) = true := by
  simp [isConsistent, h, Money.same_refl]

/-- Sets an expected balance against a calculated one. -/
def compare (stamp : Stamp) (account : AccountId) (expected calculated : Money) :
    Except Error Reconciliation :=
  match h : expected.sub calculated with
  | .ok difference =>
    .ok ⟨⟨stamp.id⟩, account, stamp.time, expected, calculated, difference,
      .ofDifference difference, stamp.time, isConsistent_sub h⟩
  | .error cause => .error (.money cause)

/-- The record with those fields, if they agree. -/
def restore (id : ReconciliationId) (account : AccountId) (date : Time)
    (expected calculated difference : Money) (status : Status) (createdAt : Time) :
    Except Error Reconciliation :=
  if h : isConsistent expected calculated difference status then
    .ok ⟨id, account, date, expected, calculated, difference, status, createdAt, h⟩
  else .error (.inconsistentReconciliation id)

def isMatch (r : Reconciliation) : Bool :=
  r.status == .matching

def toJson (r : Reconciliation) : Json :=
  .object [
    ("id", r.id.toJson),
    ("account_id", r.account.toJson),
    ("reconciliation_date", r.date.toJson),
    ("expected", r.expected.toJson),
    ("calculated", r.calculated.toJson),
    ("difference", r.difference.toJson),
    ("status", Named.toJson r.status),
    ("created_at", r.createdAt.toJson)]

end Reconciliation
end Daybook
