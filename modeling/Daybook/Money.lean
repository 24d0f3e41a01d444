import Daybook.Currency
import Daybook.Decimal.Arithmetic
import Daybook.Decimal.Json

/-!
Amounts of money. An amount is rounded once, when it is made, to four digits after the point, and it
carries exactly four unless it is too big for them. Sums and differences take two amounts of one
currency.
-/

namespace Daybook

/-- An amount in a currency, settled at four places. -/
structure Money where
  amount : Decimal
  currency : Currency
  settled : amount.Settled 4
deriving DecidableEq

inductive MoneyError where
  | currencyMismatch (left right : Currency)
  | invalidAmount (text : String)
  /-- The result does not fit; `sign` is the sign between the operands. -/
  | overflow (left : Decimal) (sign : Char) (right : Decimal)
deriving DecidableEq

def MoneyError.message : MoneyError → String
  | .currencyMismatch left right =>
    "Cannot operate on different currencies: " ++ left.code ++ " vs " ++ right.code
  | .invalidAmount text => "Invalid amount: " ++ text
  | .overflow left sign right =>
    "Arithmetic overflow: " ++ left.toText ++ " " ++ sign.toString ++ " " ++ right.toText

/-- The name of the kind of error. -/
def MoneyError.kind : MoneyError → String
  | .currencyMismatch _ _ => "CurrencyMismatch"
  | .invalidAmount _ => "InvalidAmount"
  | .overflow _ _ _ => "Overflow"

namespace Money

/-- Brings a decimal of at most four places to four. -/
def settle (d : Decimal) (c : Currency) (h : d.scale ≤ 4) : Money :=
  ⟨d.raise 4, c, Decimal.settled_raise (by decide) h⟩

/-- The amount rounded to four places, a half going away from zero. -/
def new (d : Decimal) (c : Currency) : Money :=
  settle (d.round 4) c (Decimal.scale_round_le 4 d)

def zero (c : Currency) : Money :=
  settle Decimal.zero c (by decide)

/-- Reads an amount with blanks around it; the error shows the text as given. -/
def parse (text : String) (c : Currency) : Except MoneyError Money :=
  match Decimal.ofText? (Text.trim text) with
  | some d => .ok (new d c)
  | none => .error (.invalidAmount text)

def isZero (m : Money) : Bool :=
  m.amount.isZero

def isPositive (m : Money) : Bool :=
  0 < m.amount.signed

def isNegative (m : Money) : Bool :=
  m.amount.signed < 0

/-- The magnitude is so small that fifteen digits before the point hold it. -/
def isStorable (m : Money) : Bool :=
  m.amount.mantissa < tens 15 * tens m.amount.scale

/-- Equal by value and in one currency. -/
def same (a b : Money) : Bool :=
  a.amount.same b.amount && a.currency == b.currency

def negate (m : Money) : Money :=
  ⟨m.amount.neg, m.currency, m.settled.neg⟩

def abs (m : Money) : Money :=
  ⟨m.amount.abs, m.currency, m.settled.abs⟩

theorem scale_le (m : Money) : m.amount.scale ≤ 4 :=
  m.settled.1

/-- The amount that a decimal operation gives, if it gives one. -/
def ofResult (error : MoneyError) (c : Currency) (d? : Option Decimal)
    (h : ∀ d, d? = some d → d.scale ≤ 4) : Except MoneyError Money :=
  match d?, h with
  | some d, h => .ok (settle d c (h d rfl))
  | none, _ => .error error

def add (a b : Money) : Except MoneyError Money :=
  if a.currency = b.currency then
    ofResult (.overflow a.amount '+' b.amount) a.currency (a.amount.add? b.amount) fun _ h =>
      Nat.le_trans (Decimal.scale_add_le h) (Nat.max_le.mpr ⟨a.scale_le, b.scale_le⟩)
  else .error (.currencyMismatch a.currency b.currency)

def sub (a b : Money) : Except MoneyError Money :=
  if a.currency = b.currency then
    ofResult (.overflow a.amount '-' b.amount) a.currency (a.amount.sub? b.amount) fun _ h =>
      Nat.le_trans (Decimal.scale_sub_le h) (Nat.max_le.mpr ⟨a.scale_le, b.scale_le⟩)
  else .error (.currencyMismatch a.currency b.currency)

/-- The sum of a list, added up from zero in the order of the list. -/
def sum (c : Currency) (ms : List Money) : Except MoneyError Money :=
  ms.foldlM add (zero c)

/-- Code and amount. -/
def toText (m : Money) : String :=
  m.currency.code ++ " " ++ m.amount.toText

def toJson (m : Money) : Json :=
  .object [("amount", m.amount.toJson), ("currency", Named.toJson m.currency)]

/-- Reads a decimal and a code; the decimal is rounded as for a new amount. -/
def ofJson? (j : Json) : Option Money := do
  match ← j.fields? ["amount", "currency"] with
  | [amount, currency] =>
    some (new (← Json.required Decimal.ofJson? amount) (← Json.required Named.ofJson? currency))
  | _ => none

theorem same_refl (m : Money) : m.same m = true := by
  simp [same, Decimal.same_refl]

end Money
end Daybook
