import Daybook.Json
import Daybook.Text.Natural

/-!
The text of a JSON value, on one line or with every part on a line of its own, two blanks deeper
than what holds it.
-/

namespace Daybook.Json

/-- How the parts of an array or an object are set apart. -/
inductive Layout where
  | oneLine
  /-- On lines of their own, within so many others. -/
  | lines (depth : Nat)

namespace Layout

def inner : Layout → Layout
  | .oneLine => .oneLine
  | .lines depth => .lines (depth + 1)

/-- What stands in front of a part. -/
def lead : Layout → List Char
  | .oneLine => []
  | .lines depth => '\n' :: List.replicate (2 * depth) ' '

/-- What stands between a name and its value. -/
def colon : Layout → List Char
  | .oneLine => [':']
  | .lines _ => [':', ' ']

end Layout

/-- A character within a string: quotes, backslashes and control characters are escaped. -/
def escaped (c : Char) : List Char :=
  match c with
  | '"' => ['\\', '"']
  | '\\' => ['\\', '\\']
  | '\x08' => ['\\', 'b']
  | '\x0c' => ['\\', 'f']
  | '\n' => ['\\', 'n']
  | '\r' => ['\\', 'r']
  | '\t' => ['\\', 't']
  | c => if c.toNat < 0x20 then '\\' :: 'u' :: Text.padded 16 4 c.toNat else [c]

def stringChars (s : String) : List Char :=
  '"' :: s.toList.flatMap escaped ++ ['"']

/-- A whole number in its digits, any other with an exponent. -/
def numberText (mantissa : Int) (exponent : Nat) : String :=
  if exponent = 0 then toString mantissa else toString mantissa ++ "e-" ++ toString exponent

mutual

def chars (layout : Layout) : Json → List Char
  | .null => ['n', 'u', 'l', 'l']
  | .bool b => (toString b).toList
  | .number mantissa exponent => (numberText mantissa exponent).toList
  | .string s => stringChars s
  | .array [] => ['[', ']']
  | .array (item :: items) =>
    '[' :: layout.inner.lead ++ chars layout.inner item ++ moreItems layout items
  | .object [] => ['{', '}']
  | .object ((name, value) :: members) =>
    '{' :: layout.inner.lead ++ stringChars name ++ layout.colon ++ chars layout.inner value ++
      moreMembers layout members

/-- The items that follow another one, and the end of the array. -/
def moreItems (layout : Layout) : List Json → List Char
  | [] => layout.lead ++ [']']
  | item :: items =>
    ',' :: layout.inner.lead ++ chars layout.inner item ++ moreItems layout items

/-- The members that follow another one, and the end of the object. -/
def moreMembers (layout : Layout) : List (String × Json) → List Char
  | [] => layout.lead ++ ['}']
  | (name, value) :: members =>
    ',' :: layout.inner.lead ++ stringChars name ++ layout.colon ++ chars layout.inner value ++
      moreMembers layout members

end

def text (layout : Layout) (j : Json) : String :=
  String.ofList (j.chars layout)

end Daybook.Json
