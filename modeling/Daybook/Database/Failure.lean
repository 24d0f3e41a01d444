import Daybook.Error

/-!
How failures of the database become errors of the store: a violated key or check is a broken
constraint, everything else is a failure of the backend. The text is that of the failure.
-/

namespace Daybook.Database

/-- A failure as the database layer reports it. -/
inductive Failure where
  | custom (text : String)
  | execution (text : String)
  | query (text : String)
  | connection (text : String)
  | recordNotFound (text : String)
  | type (text : String)
  | notInserted
  | notUpdated

namespace Failure

def message : Failure → String
  | .custom text => "Custom Error: " ++ text
  | .execution text => "Execution Error: " ++ text
  | .query text => "Query Error: " ++ text
  | .connection text => "Connection Error: " ++ text
  | .recordNotFound text => "RecordNotFound Error: " ++ text
  | .type text => "Type Error: " ++ text
  | .notInserted => "None of the records are inserted"
  | .notUpdated => "None of the records are updated"

/-- `part` stands somewhere in `text`. -/
def occursIn (part : List Char) : List Char → Bool
  | [] => part.isEmpty
  | c :: cs => part.isPrefixOf (c :: cs) || occursIn part cs

def toStoreError (f : Failure) : StoreError :=
  if occursIn "violates check constraint".toList f.message.toList then .constraint f.message
  else .backend f.message

end Failure
end Daybook.Database
