import Daybook.Json

/-!
Types with finitely many values, each written by a name of its own. Reading accepts exactly the
names; in JSON a value is its name, or an object with the name as its only member and `null` as the
value.
-/

namespace Daybook

/-- A type whose values are written by name. -/
class Named (α : Type) where
  /-- What a value is called in an error text. -/
  noun : String
  /-- All values, in the order in which they are listed. -/
  all : List α
  name : α → String

/-- A text that is not the name of any value. -/
structure UnknownName where
  noun : String
  text : String
deriving DecidableEq

def UnknownName.message (e : UnknownName) : String :=
  "Unknown " ++ e.noun ++ ": " ++ e.text

namespace Named

variable {α : Type} [Named α]

/-- The value with that name. -/
def find? (text : String) : Option α :=
  (all : List α).find? fun a => name a == text

def parse (text : String) : Except UnknownName α :=
  match find? text with
  | some a => .ok a
  | none => .error ⟨noun α, text⟩

def toJson (a : α) : Json :=
  .string (name a)

def ofJson? : Json → Option α
  | .string s => find? s
  | .object [(s, .null)] => find? s
  | _ => none

theorem toJson_ne_null (a : α) : toJson a ≠ .null := by
  simp [toJson]

theorem find?_name {a : α} (listed : a ∈ (all : List α))
    (injective : ∀ b c : α, name b = name c → b = c) : find? (name a) = some a := by
  have key : ∀ l : List α, a ∈ l → l.find? (fun b => name b == name a) = some a := by
    intro l
    induction l with
    | nil => intro h; cases h
    | cons b l ih =>
      intro h
      by_cases hb : name b = name a
      · simp [injective b a hb]
      · have hne : ¬ a = b := fun e => hb (by rw [e])
        rw [List.find?_cons_of_neg (by simpa using hb)]
        exact ih ((List.mem_cons.mp h).resolve_left hne)
  exact key all listed

end Named
end Daybook
