import Daybook.Log.Line
import Daybook.Text.Alphanumeric
import Daybook.Text.Blank
import Daybook.Text.Bytes
import Daybook.Text.Divide
import Daybook.Text.Natural

/-!
Which log lines are shown. A filter is a list of directives. A directive is a level, or it has the
form `target[span\x7bfield=value\x7d]=level`, of which parts can be left out. It speaks of the lines
whose target starts with its target and that have its field. The directive with the longest target
decides, before one without a field one with a field, and of two alike the later one; a line that no
directive speaks of is not shown. No line is written within a span and values are not looked at, so
that a directive that names a span or a value speaks of no line.

The marks of a directive are looked for in the text without the blanks around it. What stands
between them is taken from the text with its blanks, at the same places, so that a blank in front
moves everything.
-/

namespace Daybook.Log

/-- Shows lines down to the level of that rank. -/
structure Directive where
  target : String
  field : Option String
  /-- It names a span, or the value of its field. -/
  narrowed : Bool
  rank : Nat

abbrev Filter := List Directive

/-- Why a directive is not read. -/
inductive FilterError where
  | malformed
  /-- A place lies within a character. -/
  | misplaced
deriving DecidableEq

/-- The rank that lets everything through. -/
def everything : Nat := 5

/-- The rank that the digits spell. -/
def rankOfDigits? (cs : List Char) : Option Nat :=
  (Text.natural? cs).filter (· ≤ everything)

/-- The rank below which a level of this name lets lines through; digits are ranks themselves. -/
def rank? (name : String) : Option Nat :=
  match String.ofList (name.toList.map Char.toLower) with
  | "off" => some 0
  | "error" => some Level.error.rank
  | "warn" => some Level.warn.rank
  | "info" => some Level.info.rank
  | "debug" => some Level.debug.rank
  | "trace" => some everything
  | digits => rankOfDigits? digits.toList

namespace Directive

/-! ### Reading

`text` is the directive with its blanks, `cs` what is left of it without them, from the place
`start` on. -/

/-- What stands in the text between two places. -/
def part (text : List Char) (start stop : Nat) : Except FilterError (List Char) :=
  match Text.between? start stop text with
  | some cs => .ok cs
  | none => .error .misplaced

/-- The level behind the equals sign; without one everything is let through. -/
def readLevel (text : List Char) (start : Nat) : Except FilterError Nat := do
  let level ← part text start (Text.byteLength text)
  if level.isEmpty then return everything
  match rank? (String.ofList level) with
  | some rank => return rank
  | none => .error .malformed

/-- Reads what follows the closing bracket. -/
def readTail (text : List Char) (start : Nat) (d : Directive) :
    List Char → Except FilterError Directive
  | [] => .ok d
  | '=' :: _ => do return { d with rank := ← readLevel text (start + 1) }
  | _ => .error .malformed

/-- Reads the field and what follows it. -/
def readField (text : List Char) (start : Nat) (d : Directive) (cs : List Char) :
    Except FilterError Directive := do
  match Text.divide (· == '\x7d') cs with
  | (_, none) => .error .malformed
  | (inner, some rest) =>
    let stop := start + Text.byteLength inner
    let field ← part text start stop
    if field.isEmpty then .error .malformed
    let (name, value) := Text.divide (· == '=') field
    let d := { d with
      field := some (String.ofList name)
      narrowed := d.narrowed || value.isSome }
    match rest with
    | ']' :: rest => readTail text (stop + 2) d rest
    | _ => .error .malformed

/-- Reads what follows the opening bracket. -/
def readSpan (text : List Char) (start : Nat) (target : String) (cs : List Char) :
    Except FilterError Directive := do
  let isName := fun c : Char => c != ']' && c != '\x7b'
  let stop := start + Text.byteLength (cs.takeWhile isName)
  match cs.dropWhile isName with
  | ']' :: rest =>
    let _ ← part text start stop
    readTail text (stop + 1) ⟨target, none, true, everything⟩ rest
  | '\x7b' :: rest =>
    let span ← part text start stop
    readField text (stop + 1) ⟨target, none, !span.isEmpty, everything⟩ rest
  | _ => .error .malformed

/-- The directive starts with a target or is a level. -/
def isStart (c : Char) : Bool :=
  c == '-' || c == ':' || c == '_' || Text.isAlphanumeric c

def ofChars (text : List Char) : Except FilterError Directive := do
  let cs := Text.trimChars text
  let isName := fun c : Char => c != '=' && c != '['
  let stop := Text.byteLength (cs.takeWhile isName)
  if cs.head? = some '[' then readSpan text 1 "" (cs.drop 1)
  else if !cs.head?.any isStart then .error .malformed
  else
    match cs.dropWhile isName with
    | '=' :: _ =>
      let target ← part text 0 stop
      return ⟨String.ofList target, none, false, ← readLevel text (stop + 1)⟩
    | '[' :: rest =>
      let target ← part text 0 stop
      readSpan text (stop + 1) (String.ofList target) rest
    | _ =>
      let word := String.ofList text
      return match rank? word with
        | some rank => ⟨"", none, false, rank⟩
        | none => ⟨word, none, false, everything⟩

/-! ### Choosing -/

/-- The directive speaks of the line. -/
def concerns (d : Directive) (line : Line) : Bool :=
  !d.narrowed && d.target.toList.isPrefixOf line.target.name.toList &&
    d.field.all line.hasField

/-- The second directive decides before the first, or replaces it. -/
def yields (a b : Directive) : Bool :=
  if a.target.utf8ByteSize = b.target.utf8ByteSize then
    match a.field, b.field with
    | none, _ => true
    | some _, none => false
    | some x, some y => x ≤ y
  else a.target.utf8ByteSize < b.target.utf8ByteSize

end Directive

namespace Filter

/-- What stands between the commas, where something does. -/
def pieces (cs : List Char) : List (List Char) :=
  (Text.pieces (· == ',') cs).filter (!·.isEmpty)

/-- Shows errors only. -/
def errors : Filter :=
  [⟨"", none, false, Level.error.rank⟩]

/-- A filter without directives shows errors. -/
def orErrors (f : Filter) : Filter :=
  if f.isEmpty then errors else f

/-- Reads directives between commas; one that cannot be read spoils the filter. -/
def ofText (s : String) : Except FilterError Filter := do
  return orErrors (← (pieces s.toList).mapM Directive.ofChars)

/-- Adds the directive unless it is malformed. -/
def addReadable (f : Filter) (cs : List Char) : Except FilterError Filter :=
  match Directive.ofChars cs with
  | .ok d => .ok (f ++ [d])
  | .error .malformed => .ok f
  | .error .misplaced => .error .misplaced

/-- Reads directives between commas and leaves out those that are malformed. -/
def ofTextLeniently (s : String) : Except FilterError Filter := do
  return orErrors (← (pieces s.toList).foldlM addReadable [])

/-- The directive that decides on a line. -/
def deciding? (f : Filter) (line : Line) : Option Directive :=
  (f.filter (·.concerns line)).foldl (fun best d =>
    match best with
    | none => some d
    | some b => if b.yields d then some d else some b) none

def shows (f : Filter) (line : Line) : Bool :=
  (f.deciding? line).any fun d => line.level.rank ≤ d.rank

end Filter
end Daybook.Log
