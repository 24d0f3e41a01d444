import Daybook.Error

/-!
Commands: what a caller asks for. A command is complete when it names what its kind needs; checking
it turns it into an order, which holds the reference, the movement between accounts, a positive
amount that fits the books, and a source.
-/

namespace Daybook

/-- A request to book an operation. Callers may leave out fields; checking decides which they may. -/
structure Command where
  reference : String
  kind : Option Operation.Kind
  /-- Where money leaves. -/
  sourceAccount : Option AccountId
  /-- Where money arrives. -/
  targetAccount : Option AccountId
  amount : Decimal
  /-- The channel that the entries will name. -/
  source : Option String
deriving DecidableEq

/-- The accounts between which money moves. -/
inductive Movement where
  | deposit (target : AccountId)
  | withdrawal (source : AccountId)
  | transfer (source target : AccountId)
deriving DecidableEq

namespace Movement

def kind : Movement → Operation.Kind
  | .deposit _ => .deposit
  | .withdrawal _ => .withdrawal
  | .transfer _ _ => .transfer

/-- The accounts that have to exist. -/
def accounts : Movement → List AccountId
  | .deposit target => [target]
  | .withdrawal source => [source]
  | .transfer source target => [source, target]

def isTransfer : Movement → Bool
  | .transfer _ _ => true
  | _ => false

end Movement

/-- A command that passed all checks. -/
structure Order where
  reference : Reference
  movement : Movement
  amount : Money
  source : String
deriving DecidableEq

namespace Command

def deposit (reference : String) (target : AccountId) (amount : Decimal) : Command :=
  ⟨reference, some .deposit, none, some target, amount, none⟩

def withdrawal (reference : String) (source : AccountId) (amount : Decimal) : Command :=
  ⟨reference, some .withdrawal, some source, none, amount, none⟩

def transfer (reference : String) (source target : AccountId) (amount : Decimal) : Command :=
  ⟨reference, some .transfer, some source, some target, amount, none⟩

def withSource (c : Command) (source : String) : Command :=
  { c with source := some source }

/-! ### Checking

The checks stand in the order in which a caller learns of them. -/

def orElse {α : Type} (error : Error) : Option α → Except Error α
  | some a => .ok a
  | none => .error error

/-- The rounded amount, if it is positive and fits the books. -/
def checkAmount (amount : Decimal) (currency : Currency) : Except Error Money :=
  let rounded := Money.new amount currency
  if !rounded.isPositive then .error (.nonPositiveAmount amount)
  else if !rounded.isStorable then .error (.amountOutOfRange amount)
  else .ok rounded

/-- The accounts that the kind needs; a transfer needs two different ones. -/
def checkMovement (kind : Operation.Kind) (sourceAccount targetAccount : Option AccountId) :
    Except Error Movement :=
  match kind with
  | .deposit => do
    return .deposit (← orElse .missingTargetAccount targetAccount)
  | .withdrawal => do
    return .withdrawal (← orElse .missingSourceAccount sourceAccount)
  | .transfer => do
    let source ← orElse .missingSourceAccount sourceAccount
    let target ← orElse .missingTargetAccount targetAccount
    if source = target then .error (.sameAccountTransfer source)
    else return .transfer source target

/-- The trimmed source, or the default where there is none or only blanks. -/
def effectiveSource (source : Option String) (default : String) : String :=
  match source.map Text.trim with
  | some tag => if tag.isEmpty then default else tag
  | none => default

def check (c : Command) (currency : Currency) (defaultSource : String) : Except Error Order := do
  let reference ← (Reference.parse c.reference).mapError Error.invalidReference
  let kind ← orElse .missingKind c.kind
  let amount ← checkAmount c.amount currency
  let movement ← checkMovement kind c.sourceAccount c.targetAccount
  return ⟨reference, movement, amount, effectiveSource c.source defaultSource⟩

/-! ### JSON -/

def toJson (c : Command) : Json :=
  .object [
    ("reference", .string c.reference),
    ("kind", Json.option Named.toJson c.kind),
    ("source_account", Json.option Id.toJson c.sourceAccount),
    ("target_account", Json.option Id.toJson c.targetAccount),
    ("amount", c.amount.toJson),
    ("source", Json.option Json.string c.source)]

def ofJson? (j : Json) : Option Command := do
  match ← j.fields? ["reference", "kind", "source_account", "target_account", "amount",
    "source"] with
  | [reference, kind, sourceAccount, targetAccount, amount, source] =>
    some {
      reference := ← Json.required Json.string? reference
      kind := ← Json.optional Named.ofJson? kind
      sourceAccount := ← Json.optional Id.ofJson? sourceAccount
      targetAccount := ← Json.optional Id.ofJson? targetAccount
      amount := ← Json.required Decimal.ofJson? amount
      source := ← Json.optional Json.string? source }
  | _ => none

end Command

def Movement.toJson : Movement → Json
  | .deposit target => .object [("deposit", .object [("target", target.toJson)])]
  | .withdrawal source => .object [("withdrawal", .object [("source", source.toJson)])]
  | .transfer source target =>
    .object [("transfer", .object [("from", source.toJson), ("to", target.toJson)])]

def Order.toJson (o : Order) : Json :=
  .object [
    ("reference", o.reference.toJson),
    ("kind", Named.toJson o.movement.kind),
    ("movement", o.movement.toJson),
    ("accounts", .array (o.movement.accounts.map Id.toJson)),
    ("amount", o.amount.toJson),
    ("source", .string o.source)]

end Daybook
