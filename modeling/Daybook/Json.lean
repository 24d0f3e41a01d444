/-!
JSON values, as the codecs of this library read and write them. A number is an integer divided by a
power of ten; an object keeps its members in order. A record is written as an object and read from
an object, whose unknown members do not matter, or from a list of exactly its fields in order.
-/

namespace Daybook

inductive Json where
  | null
  | bool (b : Bool)
  | number (mantissa : Int) (exponent : Nat)
  | string (s : String)
  | array (items : List Json)
  | object (members : List (String × Json))

namespace Json

def nat (n : Nat) : Json :=
  .number n 0

/-- An absent value is written as `null`. -/
def option {α : Type} (write : α → Json) : Option α → Json
  | none => .null
  | some a => write a

/-- The member of that name; the last one counts. -/
def member? (name : String) (members : List (String × Json)) : Option Json :=
  members.reverse.lookup name

/-- The values of a record's fields, `none` for a field that an object does not have. -/
def fields? (names : List String) : Json → Option (List (Option Json))
  | .object members => some (names.map fun name => member? name members)
  | .array items => if items.length = names.length then some (items.map some) else none
  | _ => none

/-- Reads a field that must be there. -/
def required {α : Type} (read : Json → Option α) (field : Option Json) : Option α :=
  field.bind read

/-- Reads a field that may be absent or `null`. -/
def optional {α : Type} (read : Json → Option α) : Option Json → Option (Option α)
  | none => some none
  | some .null => some none
  | some j => (read j).map some

/-- The value of a member, unless it is absent or `null`. -/
def get? (j : Json) (name : String) : Option Json :=
  match j with
  | .object members =>
    match member? name members with
    | some .null => none
    | found => found
  | _ => none

def string? : Json → Option String
  | .string s => some s
  | _ => none

theorem optional_option {α : Type} {read : Json → Option α} {write : α → Json}
    (read_write : ∀ a, read (write a) = some a) (write_ne : ∀ a, write a ≠ .null) (a : Option α) :
    optional read (some (option write a)) = some a := by
  cases a with
  | none => rfl
  | some a =>
    have h : ∀ j : Json, j ≠ .null → optional read (some j) = (read j).map some := by
      intro j hj
      cases j <;> first | rfl | exact absurd rfl hj
    simp [option, h _ (write_ne a), read_write]

end Json
end Daybook
