import Daybook.Entry.Direction
import Daybook.Id
import Daybook.Operation.Status
import Daybook.Reference

/-!
Why a request is refused. Every cause has a code for programs, a message for people and a status
number, which tells whether the caller or the ledger has to act. A store's own causes come in one
constructor; some of their details are known to the database alone.
-/

namespace Daybook

/-- Why a store refuses a call. A detail is `none` where only the database knows its wording. -/
inductive StoreError where
  /-- Another operation has the reference. -/
  | duplicateReference (reference : String)
  /-- Entries or records still name the row. -/
  | referenced (entity id : String)
  | constraint (detail : Option String)
  /-- A stored row breaks the rules of the ledger. -/
  | corrupt (detail : String)
  | backend (detail : Option String)
deriving DecidableEq

namespace StoreError

/-- The whole wording is known. -/
def isWorded : StoreError → Bool
  | .constraint none => false
  | .backend none => false
  | _ => true

def message : StoreError → String
  | .duplicateReference reference => "Duplicate idempotency key: " ++ reference
  | .referenced entity id => entity ++ " " ++ id ++ " is referenced by ledger entries"
  | .constraint detail => "Constraint violation: " ++ detail.getD "unspecified"
  | .corrupt detail => "Corrupt stored data: " ++ detail
  | .backend detail => "Storage backend error: " ++ detail.getD "unspecified"

/-- The name of the kind of error. -/
def kind : StoreError → String
  | .duplicateReference _ => "DuplicateReference"
  | .referenced _ _ => "Referenced"
  | .constraint _ => "Constraint"
  | .corrupt _ => "Corrupt"
  | .backend _ => "Backend"

end StoreError

inductive Error where
  | invalidReference (cause : ReferenceError)
  | missingKind
  | nonPositiveAmount (amount : Decimal)
  | amountOutOfRange (amount : Decimal)
  | missingTargetAccount
  | missingSourceAccount
  | sameAccountTransfer (account : AccountId)
  | zeroAmount
  | directionMismatch (direction : Entry.Direction) (amount : Decimal)
  | unbalancedEntries (operation : OperationId)
  | money (cause : MoneyError)
  | inconsistentReconciliation (record : ReconciliationId)
  | accountNotFound (account : AccountId)
  | reconciliationNotFound (record : ReconciliationId)
  | alreadyProcessed (operation : OperationId)
  | invalidTransition (operation : OperationId) (current requested : Operation.Status)
  | invalidSettlementAccount (account : AccountId)
  | store (cause : StoreError)
deriving DecidableEq

namespace Error

def message : Error → String
  | .invalidReference cause => "Invalid external reference: " ++ cause.message
  | .missingKind => "Operation kind is required"
  | .nonPositiveAmount amount => "Amount must be positive, got " ++ amount.toText
  | .amountOutOfRange amount => "Amount " ++ amount.toText ++ " exceeds the supported range"
  | .missingTargetAccount => "Target account is required"
  | .missingSourceAccount => "Source account is required"
  | .sameAccountTransfer account => "Cannot transfer to the same account: " ++ account.toText
  | .zeroAmount => "Entry amount cannot be zero"
  | .directionMismatch direction amount =>
    direction.name ++ " entry cannot carry amount " ++ amount.toText
  | .unbalancedEntries operation =>
    "Entries for operation " ++ operation.toText ++ " do not balance"
  | .money cause => cause.message
  | .inconsistentReconciliation record =>
    "Reconciliation record " ++ record.toText ++ " is inconsistent"
  | .accountNotFound account => "Account not found: " ++ account.toText
  | .reconciliationNotFound record => "Reconciliation not found: " ++ record.toText
  | .alreadyProcessed operation =>
    "Operation " ++ operation.toText ++ " is already processed"
  | .invalidTransition operation current requested =>
    "Operation " ++ operation.toText ++ " cannot move from " ++ current.name ++ " to " ++
      requested.name
  | .invalidSettlementAccount account =>
    "Settlement account " ++ account.toText ++ " must exist and be a system or transit account"
  | .store cause => cause.message

def code : Error → String
  | .invalidReference _ => "INVALID_REFERENCE"
  | .missingKind => "MISSING_KIND"
  | .nonPositiveAmount _ => "NON_POSITIVE_AMOUNT"
  | .amountOutOfRange _ => "AMOUNT_OUT_OF_RANGE"
  | .missingTargetAccount => "MISSING_TARGET_ACCOUNT"
  | .missingSourceAccount => "MISSING_SOURCE_ACCOUNT"
  | .sameAccountTransfer _ => "SAME_ACCOUNT_TRANSFER"
  | .zeroAmount => "ZERO_AMOUNT"
  | .directionMismatch _ _ => "DIRECTION_MISMATCH"
  | .unbalancedEntries _ => "UNBALANCED_ENTRIES"
  | .money (.currencyMismatch _ _) => "CURRENCY_MISMATCH"
  | .money (.invalidAmount _) => "INVALID_AMOUNT"
  | .money (.overflow _ _ _) => "AMOUNT_OVERFLOW"
  | .inconsistentReconciliation _ => "INCONSISTENT_RECONCILIATION"
  | .accountNotFound _ => "ACCOUNT_NOT_FOUND"
  | .reconciliationNotFound _ => "RECONCILIATION_NOT_FOUND"
  | .alreadyProcessed _ => "ALREADY_PROCESSED"
  | .invalidTransition _ _ _ => "INVALID_TRANSITION"
  | .invalidSettlementAccount _ => "INVALID_SETTLEMENT_ACCOUNT"
  | .store _ => "STORAGE_ERROR"

/-- 400 for a malformed request, 404 for what is not there, 409 for a conflict with the books, 500
for what the caller cannot mend. -/
def status : Error → Nat
  | .invalidReference _ => 400
  | .missingKind => 400
  | .nonPositiveAmount _ => 400
  | .amountOutOfRange _ => 400
  | .missingTargetAccount => 400
  | .missingSourceAccount => 400
  | .sameAccountTransfer _ => 400
  | .zeroAmount => 409
  | .directionMismatch _ _ => 409
  | .unbalancedEntries _ => 409
  | .money (.currencyMismatch _ _) => 409
  | .money (.invalidAmount _) => 400
  | .money (.overflow _ _ _) => 500
  | .inconsistentReconciliation _ => 500
  | .accountNotFound _ => 404
  | .reconciliationNotFound _ => 404
  | .alreadyProcessed _ => 409
  | .invalidTransition _ _ _ => 409
  | .invalidSettlementAccount _ => 500
  | .store _ => 500

/-- The caller has to act. -/
def isClient (e : Error) : Bool :=
  400 ≤ e.status && e.status < 500

def isWorded : Error → Bool
  | .store cause => cause.isWorded
  | _ => true

/-- Code, status and message for a caller, the message only where its wording is known. -/
def toJson (e : Error) : Json :=
  let wording := if e.isWorded then [("message", Json.string e.message)] else []
  let kind := match e with
    | .store cause => [("store", Json.string cause.kind)]
    | _ => []
  .object ([("error", .string e.code), ("status", Json.nat e.status),
    ("client", .bool e.isClient)] ++ wording ++ kind)

end Error
end Daybook
