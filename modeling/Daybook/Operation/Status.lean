import Daybook.Named

/-!
The kinds of operation, and how far an operation has come. Every status but the first is final.
-/

namespace Daybook

inductive Operation.Kind where
  | deposit | withdrawal | transfer
deriving DecidableEq

namespace Operation.Kind

def name : Operation.Kind → String
  | .deposit => "deposit"
  | .withdrawal => "withdrawal"
  | .transfer => "transfer"

instance : Named Operation.Kind where
  noun := "operation kind"
  all := [.deposit, .withdrawal, .transfer]
  name := name

theorem name_injective (a b : Operation.Kind) (h : a.name = b.name) : a = b := by
  cases a <;> cases b <;> first | rfl | simp [name] at h

end Operation.Kind

inductive Operation.Status where
  | processing | processed | ignored | failed
deriving DecidableEq

namespace Operation.Status

def name : Operation.Status → String
  | .processing => "processing"
  | .processed => "processed"
  | .ignored => "ignored"
  | .failed => "failed"

instance : Named Operation.Status where
  noun := "operation status"
  all := [.processing, .processed, .ignored, .failed]
  name := name

/-- No status follows. -/
def isTerminal (s : Operation.Status) : Bool :=
  s != .processing

end Operation.Status
end Daybook
