import Daybook.Money

/-!
The direction of an entry, and the purpose it serves within its operation. The direction fixes the
sign of the amount: what leaves an account is negative, what enters it is positive.
-/

namespace Daybook

inductive Entry.Direction where
  | debit | credit
deriving DecidableEq

namespace Entry.Direction

def name : Entry.Direction → String
  | .debit => "debit"
  | .credit => "credit"

instance : Named Entry.Direction where
  noun := "entry direction"
  all := [.debit, .credit]
  name := name

/-- The amount has the sign of the direction. -/
def Carries : Entry.Direction → Money → Prop
  | .debit, m => m.amount.signed < 0
  | .credit, m => 0 < m.amount.signed

instance (d : Entry.Direction) (m : Money) : Decidable (d.Carries m) := by
  cases d <;> exact inferInstanceAs (Decidable (_ < _))

end Entry.Direction

inductive Entry.Purpose where
  | deposit | withdrawal | transferOut | transferIn | depositSettlement | withdrawalSettlement
deriving DecidableEq

namespace Entry.Purpose

def name : Entry.Purpose → String
  | .deposit => "deposit"
  | .withdrawal => "withdrawal"
  | .transferOut => "transfer_out"
  | .transferIn => "transfer_in"
  | .depositSettlement => "deposit_settlement"
  | .withdrawalSettlement => "withdrawal_settlement"

instance : Named Entry.Purpose where
  noun := "entry type"
  all := [.deposit, .withdrawal, .transferOut, .transferIn, .depositSettlement,
    .withdrawalSettlement]
  name := name

end Entry.Purpose
end Daybook
