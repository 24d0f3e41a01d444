import Daybook.Store.Script

/-!
Balances, added up from the entries of an account: the current one, and the one at a moment, which
counts the entries made up to then.
-/

namespace Daybook

structure Balance where
  account : AccountId
  amount : Money
  entryCount : Nat
  asOf : Time

namespace Balance

variable {Draft : Type} {α : Type}

/-- Goes on if the account is there. -/
def requireAccount (id : AccountId) (next : Script Draft (Except Error α)) :
    Script Draft (Except Error α) :=
  .call (.findAccount id) fun reply =>
    Script.andThen reply fun found =>
      match found with
      | some _ => next
      | none => .done (.error (.accountNotFound id))

def current (now : Time) (currency : Currency) (id : AccountId) :
    Script Draft (Except Error Balance) :=
  requireAccount id <|
    .call (.entriesOf id) fun reply =>
      Script.andThen reply fun es =>
        match Entry.total currency es with
        | .error cause => .done (.error (.money cause))
        | .ok amount =>
          .emit (.balanceDerived id amount es.length)
            (.done (.ok ⟨id, amount, es.length, now⟩))

def atMoment (cutoff : Time) (currency : Currency) (id : AccountId) :
    Script Draft (Except Error Balance) :=
  requireAccount id <|
    .call (.entriesUpTo id cutoff) fun reply =>
      Script.andThen reply fun es =>
        let counted := Entry.upTo cutoff es
        match Entry.total currency counted with
        | .error cause => .done (.error (.money cause))
        | .ok amount => .done (.ok ⟨id, amount, counted.length, cutoff⟩)

def toJson (b : Balance) : Json :=
  .object [
    ("account_id", b.account.toJson),
    ("balance", b.amount.toJson),
    ("entry_count", Json.nat b.entryCount),
    ("as_of", b.asOf.toJson)]

end Balance
end Daybook
