import Daybook.Uuid

/-!
Identifiers by what they identify, so that the id of an account is never taken for that of an
operation.
-/

namespace Daybook

/-- What an identifier identifies. -/
inductive Subject where
  | account | operation | entry | reconciliation
deriving DecidableEq

structure Id (subject : Subject) where
  uuid : Uuid
deriving DecidableEq

abbrev AccountId := Id .account
abbrev OperationId := Id .operation
abbrev EntryId := Id .entry
abbrev ReconciliationId := Id .reconciliation

namespace Id

variable {subject : Subject}

def le (a b : Id subject) : Bool :=
  a.uuid.le b.uuid

def toText (id : Id subject) : String :=
  id.uuid.toText

def ofText? (s : String) : Option (Id subject) :=
  (Uuid.ofText? s).map Id.mk

def toJson (id : Id subject) : Json :=
  .string id.toText

def ofJson? (j : Json) : Option (Id subject) :=
  j.string?.bind ofText?

end Id
end Daybook
