import Daybook.Id
import Daybook.Named
import Daybook.Time.Text

/-!
Accounts: an identity, a kind and the moment of opening. What an account holds is not stored but
added up from its entries.
-/

namespace Daybook

inductive Account.Kind where
  /-- Owned by a customer. -/
  | user
  /-- Owned by the institution. -/
  | system
  /-- For funds on their way. -/
  | transit
deriving DecidableEq

namespace Account.Kind

def name : Account.Kind → String
  | .user => "user"
  | .system => "system"
  | .transit => "transit"

instance : Named Account.Kind where
  noun := "account kind"
  all := [.user, .system, .transit]
  name := name

/-- Fit to take the other side of deposits and withdrawals. -/
def canSettle : Account.Kind → Bool
  | .user => false
  | .system => true
  | .transit => true

theorem name_injective (a b : Account.Kind) (h : a.name = b.name) : a = b := by
  cases a <;> cases b <;> first | rfl | simp [name] at h

end Account.Kind

structure Account where
  id : AccountId
  kind : Account.Kind
  createdAt : Time
deriving DecidableEq

namespace Account

def toJson (a : Account) : Json :=
  .object [("id", a.id.toJson), ("kind", Named.toJson a.kind), ("created_at", a.createdAt.toJson)]

def ofJson? (j : Json) : Option Account := do
  match ← j.fields? ["id", "kind", "created_at"] with
  | [id, kind, createdAt] =>
    some ⟨← Json.required Id.ofJson? id, ← Json.required Named.ofJson? kind,
      ← Json.required Time.ofJson? createdAt⟩
  | _ => none

end Account
end Daybook
