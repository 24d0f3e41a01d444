import Daybook.Reconciliation

/-!
What a reconciliation tells about the books: which side is higher, and the last entries of the
account, in which the cause is likely to be found.
-/

namespace Daybook

/-- Where the calculated balance lies, seen from the expected one. -/
inductive Divergence where
  | none | calculatedHigher | calculatedLower
deriving DecidableEq

namespace Divergence

def name : Divergence → String
  | .none => "none"
  | .calculatedHigher => "calculated_higher"
  | .calculatedLower => "calculated_lower"

def of (r : Reconciliation) : Divergence :=
  if r.difference.isZero then .none
  else if r.difference.isPositive then .calculatedLower
  else .calculatedHigher

/-- The sentence for people, with the number of entries shown. -/
def describe (r : Reconciliation) (shown : Nat) : String :=
  let found := fun side : String =>
    "Divergence detected! Calculated balance is " ++ side ++ " than expected by " ++
      r.difference.abs.amount.toText ++ ". Showing the last " ++ shown.repr ++
      " entries for investigation. Check for: missing operations, duplicate processing, " ++
      "or incorrect amount calculations."
  match of r with
  | .none => "Balances match. No divergence detected."
  | .calculatedHigher => found "higher"
  | .calculatedLower => found "lower"

end Divergence

structure DivergenceReport where
  record : Reconciliation
  recentEntries : List Entry
  direction : Divergence
  analysis : String

namespace DivergenceReport

def of (record : Reconciliation) (recentEntries : List Entry) : DivergenceReport :=
  ⟨record, recentEntries, .of record, Divergence.describe record recentEntries.length⟩

def toJson (r : DivergenceReport) : Json :=
  .object [
    ("record", r.record.toJson),
    ("recent_entries", .array (r.recentEntries.map Entry.toJson)),
    ("direction", .string r.direction.name),
    ("analysis", .string r.analysis)]

end DivergenceReport
end Daybook
