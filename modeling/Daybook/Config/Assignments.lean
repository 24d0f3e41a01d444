import Daybook.Config.Environment
import Daybook.Text.Alphanumeric
import Daybook.Text.Blank
import Daybook.Text.Bytes

/-!
Files of assignments, `NAME=value`, which add the variables that the environment does not have. A
value is read in three kinds of quoting, and `$NAME` in it stands for a variable set before. Quotes
and backslashes carry an assignment over the end of its line (`Openness`). Reading stops at the
first assignment that is broken; those before it stand. A file with a value that no variable can
hold, or with a comment that cannot be cut off, is of no use at all.
-/

namespace Daybook.Config.Assignments

/-! ### Lines -/

/-- What is open at a character of an assignment. A double quote is a weak one. -/
inductive Openness where
  | closed | blank | escape | weak | weakEscape | strong | strongEscape
deriving DecidableEq

namespace Openness

/-- What a character outside of quotes opens. -/
def opened (c : Char) : Openness :=
  if c = '\\' then .escape else if c = '"' then .weak else if c = '\'' then .strong else .closed

/-- What is open after a character; `none` where a comment starts, which it does after one blank. -/
def next : Openness → Char → Option Openness
  | .closed, c =>
    some (if Text.isBlank c && c != '\n' && c != '\r' then .blank else opened c)
  | .blank, c => if c = '#' then none else some (opened c)
  | .escape, _ => some .closed
  | .weak, c => some (if c = '\\' then .weakEscape else if c = '"' then .closed else .weak)
  | .weakEscape, _ => some .weak
  | .strong, c => some (if c = '\\' then .strongEscape else if c = '\'' then .closed else .strong)
  | .strongEscape, _ => some .strong

end Openness

/-- What is open at the end of the characters, or else the place where a comment starts. -/
def scan (o : Openness) (place : Nat) : List Char → Except Nat Openness
  | [] => .ok o
  | c :: rest =>
    match o.next c with
    | some o => scan o (place + c.utf8Size) rest
    | none => .error place

/-- The characters without the break at their end. -/
def withoutBreak (cs : List Char) : List Char :=
  match cs.reverse with
  | '\n' :: '\r' :: rest => rest.reverse
  | '\n' :: rest => rest.reverse
  | _ => cs

/-- The text as it is with one more line: a whole assignment, or one that is still open. A comment
is cut off at its place in the line; that place may lie within a character of the text. -/
def complete? (o : Openness) (text line : List Char) : Option (List Char ⊕ Openness) :=
  let text := text ++ line
  if (text.dropWhile Text.isBlank).head? = some '#' then some (.inl [])
  else
    match scan o 0 line with
    | .ok .closed => some (.inl (withoutBreak text))
    | .ok o => some (.inr o)
    | .error place => (Text.cut? place text).map fun (front, _) => .inl front

/-- The lines, each with the break at its end. -/
def lines : List Char → List (List Char)
  | [] => []
  | c :: rest =>
    if c = '\n' then [c] :: lines rest
    else
      match lines rest with
      | line :: more => (c :: line) :: more
      | [] => [[c]]

/-! ### Values -/

/-- What a backslash and the character behind it stand for. -/
def escape? (c : Char) : Option Char :=
  if ['\\', '\'', '"', '$', ' '].contains c then some c
  else if c = 'n' then some '\n'
  else none

/-- Where in a value the reader is; `weak` tells whether a weak quote is open. -/
inductive Position where
  | inText (weak : Bool)
  | inEscape (weak : Bool)
  | inStrong
  /-- In the name of a variable, after a dollar sign. -/
  | inName (weak : Bool) (name : List Char)
  /-- In a name between braces. -/
  | inBraces (weak : Bool) (name : List Char)
  | behind

/-- The value of a variable; one that is not there is empty. -/
def substitute (env : Environment) (name : List Char) : List Char :=
  ((env.lookup (String.ofList name)).getD "").toList

/-- The rest of a value. A blank outside of quotes ends it; only a comment can follow. -/
def readValue? (env : Environment) : Position → List Char → Option (List Char)
  | .inText weak, [] => if weak then none else some []
  | .inEscape weak, [] => if weak then none else some []
  | .inName weak name, [] => if weak then none else some (substitute env name)
  | .behind, [] => some []
  | _, [] => none
  | .inText weak, c :: rest =>
    if c = '$' then readValue? env (.inName weak []) rest
    else if c = '\\' then readValue? env (.inEscape weak) rest
    else if c = '"' then readValue? env (.inText !weak) rest
    else if weak then (readValue? env (.inText weak) rest).map (c :: ·)
    else if c = '\'' then readValue? env .inStrong rest
    else if c = ' ' ∨ c = '\t' then readValue? env .behind rest
    else (readValue? env (.inText weak) rest).map (c :: ·)
  | .inEscape weak, c :: rest => do
    some ((← escape? c) :: (← readValue? env (.inText weak) rest))
  | .inStrong, c :: rest =>
    if c = '\'' then readValue? env (.inText false) rest
    else (readValue? env .inStrong rest).map (c :: ·)
  | .inName weak name, c :: rest =>
    if Text.isAlphanumeric c then readValue? env (.inName weak (name ++ [c])) rest
    else if c = '{' ∧ name = [] then readValue? env (.inBraces weak []) rest
    else if c = '$' then
      (readValue? env (.inName weak []) rest).map (substitute env name ++ ·)
    else (readValue? env (.inText weak) rest).map (substitute env name ++ c :: ·)
  | .inBraces weak name, c :: rest =>
    if c = '}' then (readValue? env (.inText weak) rest).map (substitute env name ++ ·)
    else readValue? env (.inBraces weak (name ++ [c])) rest
  | .behind, c :: rest =>
    if c = ' ' ∨ c = '\t' then readValue? env .behind rest
    else if c = '#' then some []
    else none

/-! ### Assignments -/

def skipBlanks (cs : List Char) : List Char :=
  cs.dropWhile Text.isBlank

/-- A name of letters, digits, underscores and points, not starting with a digit or a point, and
what follows it and blanks. -/
def readName? (cs : List Char) : Option (List Char × List Char) :=
  let isPart := fun c : Char => c.isAlphanum || c == '_' || c == '.'
  if cs.head?.any fun c => c.isAlpha || c == '_' then
    some (cs.takeWhile isPart, skipBlanks (cs.dropWhile isPart))
  else none

/-- A name and what follows the equals sign behind it. The word `export` may stand in front. -/
def readTarget? (cs : List Char) : Option (List Char × List Char) := do
  let (name, rest) ← readName? cs
  match rest with
  | '=' :: rest => some (name, rest)
  | rest =>
    if name = ['e', 'x', 'p', 'o', 'r', 't'] then
      match ← readName? rest with
      | (name, '=' :: rest) => some (name, rest)
      | _ => none
    else none

/-- Nothing but perhaps a comment. -/
def isVoid (cs : List Char) : Bool :=
  cs.isEmpty || cs.head? == some '#'

/-- What an assignment sets; a void line sets nothing. -/
def read? (env : Environment) (assignment : List Char) : Option (Option (String × String)) := do
  let cs := Text.trimChars assignment
  if isVoid cs then return none
  else
    let (name, rest) ← readTarget? cs
    let rest := skipBlanks rest
    let value ← if isVoid rest then some [] else readValue? env (.inText false) rest
    return some (String.ofList name, String.ofList value)

/-- The environment after the lines, of which `text` is the start of an assignment that is open. -/
def run? (env : Environment) (o : Openness) (text : List Char) :
    List (List Char) → Option Environment
  | [] => some env
  | line :: more =>
    match complete? o text line with
    | none => none
    | some (.inr o) => run? env o (text ++ line) more
    | some (.inl whole) =>
      match read? env whole with
      | none => some env
      | some none => run? env .closed [] more
      | some (some (name, value)) =>
        match env.define? name value with
        | some env => run? env .closed [] more
        | none => none

/-- A mark of the byte order can stand at the start of a file. -/
def skipMark : List Char → List Char
  | '\uFEFF' :: rest => rest
  | cs => cs

end Assignments

/-- The environment with the variables of a file that it does not have. -/
def Environment.extend? (env : Environment) (file : String) : Option Environment :=
  Assignments.run? env .closed [] (Assignments.lines (Assignments.skipMark file.toList))

end Daybook.Config
