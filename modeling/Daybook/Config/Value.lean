import Daybook.Text.Divide

/-!
Settings before they are given a meaning: a tree of tables whose leaves are texts and integers. One
tree is laid over another key by key, so that of several sources the later ones win where they say
something, and the earlier ones stand where they do not. Sources can name a place in the tree by a
path, which is keys with points between them.
-/

namespace Daybook.Config

inductive Value where
  | text (s : String)
  | integer (n : Int)
  | table (members : List (String × Value))

abbrev Members := List (String × Value)

/-- A character that can stand in a key without quotes. -/
def isKeyChar (c : Char) : Bool :=
  c.isAlphanum || c == '_' || c == '-'

/-! ### Paths -/

/-- The path that the characters spell, if they are keys with points between them. -/
def path? (cs : List Char) : Option (List String) :=
  let keys := Text.pieces (· == '.') cs
  if keys.all fun key => !key.isEmpty && key.all isKeyChar then some (keys.map String.ofList)
  else none

/-! ### Trees -/

namespace Value

/-- The members of a table; a leaf has none. -/
def members : Value → Members
  | .table ms => ms
  | _ => []

/-- The value in tables within tables, one for each key of the path. -/
def under : List String → Value → Value
  | [], v => v
  | key :: path, v => .table [(key, under path v)]

end Value

/-- The members with a new value for the key, in its place or at the end. -/
def Members.put (key : String) (v : Value) : Members → Members
  | [] => [(key, v)]
  | (k, w) :: rest => if k = key then (key, v) :: rest else (k, w) :: Members.put key v rest

mutual

/-- The value laid over what was there: a table adds to a table, all else replaces it. -/
def Value.over (old : Option Value) : Value → Value
  | .table new => .table (Members.over (old.elim [] Value.members) new)
  | leaf => leaf

/-- Puts members over members, one after the other. -/
def Members.over (old : Members) : List (String × Value) → Members
  | [] => old
  | (key, v) :: rest => Members.over (Members.put key (v.over (old.lookup key)) old) rest

end

/-- What the trees say together, the later ones laid over the earlier ones. -/
def layered (values : List Value) : Members :=
  values.foldl (fun ms v => Members.over ms v.members) []

/-- The members of a source, each at its path; a key that spells none is a key as it is. -/
def Members.placed (ms : Members) : List Value :=
  ms.map fun (key, v) => .under ((path? key.toList).getD [key]) v

end Daybook.Config
