import Daybook.Named
import Daybook.Text.Blank
import Daybook.Text.Upper

/-!
The currencies of the ledger, by their three-letter codes.
-/

namespace Daybook

inductive Currency where
  | brl | usd | eur | idr | sgd | jpy
deriving DecidableEq

namespace Currency

def code : Currency → String
  | .brl => "BRL"
  | .usd => "USD"
  | .eur => "EUR"
  | .idr => "IDR"
  | .sgd => "SGD"
  | .jpy => "JPY"

instance : Named Currency where
  noun := "currency"
  all := [.brl, .usd, .eur, .idr, .sgd, .jpy]
  name := code

/-- Reads a code in any case, with blanks around it; the error shows the text as given. -/
def ofText (text : String) : Except UnknownName Currency :=
  match Named.find? (Text.upper (Text.trim text)) with
  | some c => .ok c
  | none => .error ⟨"currency", text⟩

theorem code_injective (a b : Currency) (h : a.code = b.code) : a = b := by
  cases a <;> cases b <;> first | rfl | simp [code] at h

end Currency
end Daybook
