import Daybook.Config.Document
import Daybook.Power
import Daybook.Text.Natural
import Daybook.Uuid

/-!
Configuration files in TOML, as far as configurations need it: comments, sections, bare, quoted and
dotted keys, the four kinds of string, integers of 64 bits, the words `true` and `false`, which
count as texts, and inline tables, which may run over several lines. A file that breaks a rule is
refused as a whole.

A reader takes characters and gives what it read together with the characters that follow. Carriage
returns are dealt with once, at the start: each stands before a line feed (`breaksLines`).
-/

namespace Daybook.Config.Toml

def isSpace (c : Char) : Bool :=
  c == ' ' || c == '\t'

def isNewline (c : Char) : Bool :=
  c == '\n' || c == '\r'

/-- A character that can stand in strings and comments as it is. -/
def isPlain (c : Char) : Bool :=
  c == '\t' || (0x20 ≤ c.toNat && c.toNat != 0x7F)

def skipSpaces (cs : List Char) : List Char :=
  cs.dropWhile isSpace

/-- Every carriage return stands before a line feed. -/
def breaksLines : List Char → Bool
  | [] => true
  | '\r' :: '\n' :: rest => breaksLines rest
  | c :: rest => c != '\r' && breaksLines rest

/-- Skips blanks, line breaks and comments; `inComment` tells whether a comment is being read. -/
def skipFiller : (inComment : Bool) → List Char → List Char
  | _, [] => []
  | inComment, c :: rest =>
    if isNewline c then skipFiller (inComment && c == '\r') rest
    else if inComment then if isPlain c then skipFiller true rest else c :: rest
    else if c = '#' then skipFiller true rest
    else if isSpace c then skipFiller false rest
    else c :: rest

/-- The rest of a line, which holds at most a comment; gives what follows the line. -/
def endLine? (cs : List Char) : Option (List Char) :=
  let afterComment := match skipSpaces cs with
    | '#' :: rest => rest.dropWhile isPlain
    | rest => rest
  match afterComment with
  | [] => some []
  | '\n' :: rest => some rest
  | '\r' :: '\n' :: rest => some rest
  | _ => none

/-! ### Strings -/

/-- The character of a code point, surrogates excepted. -/
def codePoint? (digits : List Char) (length : Nat) : Option Char := do
  let n ← if digits.length = length then Uuid.hexNumber? digits else none
  if n.isValidChar then some (Char.ofNat n) else none

/-- The character that follows a backslash stands for. -/
def escape? : List Char → Option (Char × List Char)
  | 'b' :: rest => some ('\x08', rest)
  | 't' :: rest => some ('\t', rest)
  | 'n' :: rest => some ('\n', rest)
  | 'f' :: rest => some ('\x0c', rest)
  | 'r' :: rest => some ('\r', rest)
  | 'e' :: rest => some ('\x1b', rest)
  | '"' :: rest => some ('"', rest)
  | '\\' :: rest => some ('\\', rest)
  | 'x' :: rest => do some (← codePoint? (rest.take 2) 2, rest.drop 2)
  | 'u' :: rest => do some (← codePoint? (rest.take 4) 4, rest.drop 4)
  | 'U' :: rest => do some (← codePoint? (rest.take 8) 8, rest.drop 8)
  | _ => none

/-- The rest of a string on one line; `quote` ends it, and only a double quote allows escapes. -/
def readLine (quote : Char) : (fuel : Nat) → List Char → Option (List Char × List Char)
  | 0, _ => none
  | fuel + 1, cs =>
    match cs with
    | [] => none
    | c :: rest =>
      if c = quote then some ([], rest)
      else if c = '\\' ∧ quote = '"' then do
        let (e, rest) ← escape? rest
        let (text, rest) ← readLine quote fuel rest
        some (e :: text, rest)
      else if isPlain c then do
        let (text, rest) ← readLine quote fuel rest
        some (c :: text, rest)
      else none

/-- The rest of a string over several lines. Three quotes end it, one or two more before them belong
to it, and a backslash at the end of a line takes away the blanks up to the next character. -/
def readLines (quote : Char) : (fuel : Nat) → List Char → Option (List Char × List Char)
  | 0, _ => none
  | fuel + 1, cs =>
    match cs with
    | [] => none
    | c :: rest =>
      let quotes := (cs.takeWhile (· == quote)).length
      if 3 ≤ quotes then
        if quotes ≤ 5 then some (List.replicate (quotes - 3) quote, cs.drop quotes) else none
      else if c = '\\' ∧ quote = '"' then
        let line := skipSpaces rest
        if line.head?.any isNewline then
          readLines quote fuel (line.dropWhile fun c => isSpace c || isNewline c)
        else do
          let (e, rest) ← escape? rest
          let (text, rest) ← readLines quote fuel rest
          some (e :: text, rest)
      else if isPlain c || isNewline c then do
        let (text, rest) ← readLines quote fuel rest
        some (c :: text, rest)
      else none

/-- A line feed directly behind the opening quotes does not count. -/
def skipFirstNewline : List Char → List Char
  | '\n' :: rest => rest
  | '\r' :: '\n' :: rest => rest
  | rest => rest

/-- A string of any kind, from its opening quote. -/
def readString (cs : List Char) : Option (String × List Char) :=
  let read := fun (quote : Char) (rest : List Char) =>
    if rest.take 2 = [quote, quote] then readLines quote cs.length (skipFirstNewline (rest.drop 2))
    else readLine quote cs.length rest
  let found := match cs with
    | '"' :: rest => read '"' rest
    | '\'' :: rest => read '\'' rest
    | _ => none
  found.map fun (text, rest) => (String.ofList text, rest)

/-! ### Keys -/

def readKey (cs : List Char) : Option (String × List Char) :=
  match cs with
  | '"' :: rest => (readLine '"' cs.length rest).map fun (key, rest) => (String.ofList key, rest)
  | '\'' :: rest => (readLine '\'' cs.length rest).map fun (key, rest) => (String.ofList key, rest)
  | _ =>
    let key := cs.takeWhile isKeyChar
    if key.isEmpty then none else some (String.ofList key, cs.dropWhile isKeyChar)

/-- How deep tables can be nested, and how many keys can stand with points between them. -/
def limit : Nat := 80

/-- Keys with points between them, as many as are allowed, and the blanks behind them. -/
def readPath : (allowed : Nat) → List Char → Option (List String × List Char)
  | 0, _ => none
  | allowed + 1, cs => do
    let (key, rest) ← readKey cs
    match skipSpaces rest with
    | '.' :: rest => do
      let (path, rest) ← readPath allowed (skipSpaces rest)
      some (key :: path, rest)
    | rest => some ([key], rest)

/-! ### Values -/

/-- The digits without the underscores between them; none may stand elsewhere. -/
def withoutUnderscores (cs : List Char) : Option (List Char) :=
  if cs.head? = some '_' ∨ cs.getLast? = some '_' ∨ ('_', '_') ∈ cs.zip (cs.drop 1) then none
  else some (cs.filter (· != '_'))

/-- The number that digits spell in a base. -/
def inBase? (base : Nat) (cs : List Char) : Option Nat :=
  let step := fun (n : Option Nat) (c : Char) => do
    let d ← Uuid.hexDigit? c
    if d < base then some ((← n) * base + d) else none
  if cs.isEmpty then none else cs.foldl step (some 0)

/-- Decimal digits, which start with a zero only for zero itself. -/
def decimal? (cs : List Char) : Option Nat :=
  if cs.head? = some '0' ∧ cs.length ≠ 1 then none else Text.digits? cs

def integer? (word : List Char) : Option Int := do
  let read := fun (digits? : List Char → Option Nat) (ds : List Char) =>
    ((withoutUnderscores ds).bind digits?).map Int.ofNat
  let n ← match word with
    | '0' :: 'x' :: ds => read (inBase? 16) ds
    | '0' :: 'o' :: ds => read (inBase? 8) ds
    | '0' :: 'b' :: ds => read (inBase? 2) ds
    | '-' :: ds => (read decimal? ds).map fun n => -n
    | '+' :: ds => read decimal? ds
    | ds => read decimal? ds
  if -(twos 63 : Int) ≤ n ∧ n < twos 63 then some n else none

/-- A value that is written as a word. -/
def word? (word : List Char) : Option Value :=
  let text := String.ofList word
  if text = "true" ∨ text = "false" then some (.text text) else (integer? word).map .integer

def isWordChar (c : Char) : Bool :=
  isKeyChar c || c == '+'

mutual

/-- A value in which tables are nested at most `depth` deep. -/
def readValue : (fuel depth : Nat) → List Char → Option (Value × List Char)
  | 0, _, _ => none
  | fuel + 1, depth, cs =>
    match cs with
    | '"' :: _ => (readString cs).map fun (s, rest) => (.text s, rest)
    | '\'' :: _ => (readString cs).map fun (s, rest) => (.text s, rest)
    | '{' :: rest =>
      if depth = 0 then none
      else
        match skipFiller false rest with
        | '}' :: rest => some (.table [], rest)
        | rest => (readInline fuel (depth - 1) [] rest).map fun (d, rest) => (d.toValue, rest)
    | _ => do some (← word? (cs.takeWhile isWordChar), cs.dropWhile isWordChar)

/-- The rest of an inline table, from a key on. The last value may have a comma behind it. -/
def readInline : (fuel depth : Nat) → Document → List Char → Option (Document × List Char)
  | 0, _, _, _ => none
  | fuel + 1, depth, d, cs => do
    let (keys, rest) ← readPath limit cs
    match skipFiller false rest with
    | '=' :: rest =>
      let (v, rest) ← readValue fuel depth (skipFiller false rest)
      let d ← d.assign? keys v []
      match skipFiller false rest with
      | ',' :: rest =>
        match skipFiller false rest with
        | '}' :: rest => some (d, rest)
        | rest => readInline fuel depth d rest
      | '}' :: rest => some (d, rest)
      | _ => none
    | _ => none

end

/-! ### Files -/

/-- The rest of a file, from the start of a line on. -/
def readFile : (fuel : Nat) → Document → (inSection : List String) → List Char → Option Document
  | 0, _, _, _ => none
  | fuel + 1, d, inSection, cs =>
    match skipSpaces cs with
    | [] => some d
    | '[' :: rest => do
      let (path, rest) ← readPath limit (skipSpaces rest)
      match rest with
      | ']' :: rest => readFile fuel (← d.openSection? path) path (← endLine? rest)
      | _ => none
    | line =>
      match endLine? line with
      | some rest => readFile fuel d inSection rest
      | none => do
        let (keys, rest) ← readPath limit line
        match rest with
        | '=' :: rest =>
          let (v, rest) ← readValue line.length limit (skipSpaces rest)
          readFile fuel (← d.assign? keys v inSection) inSection (← endLine? rest)
        | _ => none

/-- A mark of the byte order can stand at the start of a file, one for the encoding and one for the
format. -/
def skipMarks : List Char → List Char
  | '\uFEFF' :: '\uFEFF' :: rest => rest
  | '\uFEFF' :: rest => rest
  | rest => rest

/-- The tree that a file describes. -/
def parse? (file : String) : Option Value :=
  let cs := skipMarks file.toList
  if breaksLines cs then (readFile (cs.length + 1) [] [] cs).map Document.toValue else none

end Daybook.Config.Toml
