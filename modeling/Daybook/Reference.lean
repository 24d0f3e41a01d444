import Daybook.Json
import Daybook.Text.Blank
import Daybook.Text.Quoted

/-!
References: the keys by which callers name their operations. A reference has 1 to 255 characters,
each an ASCII letter or digit, an underscore or a hyphen; blanks around it are not part of it.
-/

namespace Daybook

inductive ReferenceError where
  | empty
  | tooLong (length maximum : Nat)
  | invalidCharacter (c : Char)
deriving DecidableEq

def ReferenceError.message : ReferenceError → String
  | .empty => "External reference cannot be empty"
  | .tooLong length maximum =>
    "External reference is " ++ length.repr ++ " characters, maximum is " ++ maximum.repr
  | .invalidCharacter c =>
    "External reference contains invalid character " ++ Text.quoted c

/-- The name of the kind of error. -/
def ReferenceError.kind : ReferenceError → String
  | .empty => "Empty"
  | .tooLong _ _ => "TooLong"
  | .invalidCharacter _ => "InvalidCharacter"

namespace Reference

def maxLength : Nat := 255

def isAllowed (c : Char) : Bool :=
  c.isAlphanum || c == '_' || c == '-'

/-- The grammar of a reference. -/
def WellFormed (cs : List Char) : Prop :=
  cs ≠ [] ∧ cs.length ≤ maxLength ∧ ∀ c ∈ cs, isAllowed c = true

instance (cs : List Char) : Decidable (WellFormed cs) :=
  inferInstanceAs (Decidable (_ ∧ _ ∧ _))

end Reference

structure Reference where
  text : String
  wellFormed : Reference.WellFormed text.toList
deriving DecidableEq

namespace Reference

/-- Checks characters without blanks around them: that there are some, that there are not too many,
that all are allowed. -/
def ofTrimmed (cs : List Char) : Except ReferenceError Reference :=
  if hne : cs = [] then .error .empty
  else if hlen : cs.length > maxLength then .error (.tooLong cs.length maxLength)
  else
    match hbad : cs.find? (fun c => !isAllowed c) with
    | some c => .error (.invalidCharacter c)
    | none =>
      .ok ⟨String.ofList cs, by
        rw [String.toList_ofList]
        refine ⟨hne, Nat.le_of_not_lt hlen, fun c hc => ?_⟩
        simpa using List.find?_eq_none.mp hbad c hc⟩

def parse (text : String) : Except ReferenceError Reference :=
  ofTrimmed (Text.trimChars text.toList)

def toJson (r : Reference) : Json :=
  .string r.text

/-- Reads a text; any other value gives no cause. -/
def ofJson (j : Json) : Except (Option ReferenceError) Reference :=
  match j with
  | .string s => (parse s).mapError some
  | _ => .error none

/-- The order of the bytes. -/
def le (a b : Reference) : Bool :=
  a.text ≤ b.text

theorem ext {a b : Reference} (h : a.text = b.text) : a = b := by
  cases a; cases b; cases h; rfl

end Reference
end Daybook
