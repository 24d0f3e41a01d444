import Daybook.Currency
import Daybook.Id

/-!
What a ledger is set up with: the currency of its books, the source of entries whose command names
none, and the account that takes the other side of deposits and withdrawals, if there is one.
-/

namespace Daybook

structure Settings where
  currency : Currency
  defaultSource : String
  settlementAccount : Option AccountId

namespace Settings

def default : Settings :=
  ⟨.brl, "api", none⟩

def toJson (s : Settings) : Json :=
  .object [
    ("currency", Named.toJson s.currency),
    ("default_source", .string s.defaultSource),
    ("settlement_account", Json.option Id.toJson s.settlementAccount)]

end Settings
end Daybook
