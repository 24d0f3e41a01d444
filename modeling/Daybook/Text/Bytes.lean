/-!
Places in a text, counted in the bytes that its characters take. A place can lie within a
character, and there a text cannot be cut.
-/

namespace Daybook.Text

/-- How many bytes the characters take. -/
def byteLength : List Char → Nat
  | [] => 0
  | c :: cs => c.utf8Size + byteLength cs

/-- The text cut at a place. -/
def cut? : (place : Nat) → List Char → Option (List Char × List Char)
  | 0, cs => some ([], cs)
  | _ + 1, [] => none
  | n + 1, c :: cs =>
    if c.utf8Size ≤ n + 1 then
      (cut? (n + 1 - c.utf8Size) cs).map fun (front, rest) => (c :: front, rest)
    else none

/-- What stands between two places. -/
def between? (start stop : Nat) (cs : List Char) : Option (List Char) := do
  let (_, rest) ← cut? start cs
  let (part, _) ← cut? (stop - start) rest
  return part

end Daybook.Text
