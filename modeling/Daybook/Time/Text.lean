import Daybook.Json
import Daybook.Power
import Daybook.Text.Blank
import Daybook.Text.Natural
import Daybook.Time.Calendar

/-!
Moments as text. Written is the date, `T`, the time of day and `Z`, with 0, 3, 6 or 9 digits after
the second, the fewest that are exact. Read is the same with any offset from UTC; blanks may stand
around the parts, numbers may be shorter, and a blank may stand for the `T`.
-/

namespace Daybook.Time

/-! ### Writing -/

/-- The number in decimal, with zeros in front up to the width. -/
def padded (width n : Nat) : List Char :=
  Text.padded 10 width n

/-- Four digits; a year that needs more, or is before the year 0, has a sign. -/
def yearChars (year : Int) : List Char :=
  if year < 0 then '-' :: padded 4 year.natAbs
  else if 9999 < year then '+' :: padded 4 year.natAbs
  else padded 4 year.natAbs

def fractionChars (nano : Nat) : List Char :=
  if nano = 0 then []
  else if nano % 1000000 = 0 then '.' :: padded 3 (nano / 1000000)
  else if nano % 1000 = 0 then '.' :: padded 6 (nano / 1000)
  else '.' :: padded 9 nano

/-- Date and time of day in UTC, without a word on the offset. -/
def clockChars (t : Time) : List Char :=
  let date := Date.ofDays (t.second / 86400)
  let second := (t.second % 86400).toNat
  let leap := if t.nano < 1000000000 then 0 else 1
  yearChars date.year ++ '-' :: padded 2 date.month ++ '-' :: padded 2 date.day ++
    'T' :: padded 2 (second / 3600) ++ ':' :: padded 2 (second / 60 % 60) ++
    ':' :: padded 2 (second % 60 + leap) ++ fractionChars (t.nano - leap * 1000000000)

def toChars (t : Time) : List Char :=
  t.clockChars ++ ['Z']

def toText (t : Time) : String :=
  String.ofList t.toChars

def toJson (t : Time) : Json :=
  .string t.toText

/-! ### Reading

Each reader takes a part from the front and gives the rest. -/

def skipBlanks (cs : List Char) : List Char :=
  cs.dropWhile Text.isBlank

/-- A number of one up to `width` digits, after blanks. -/
def readNumber (width : Nat) (cs : List Char) : Option (Nat × List Char) :=
  let cs := skipBlanks cs
  let ds := (cs.take width).takeWhile Char.isDigit
  if ds.isEmpty then none
  else some (ds.foldl (fun n c => n * 10 + (c.toNat - '0'.toNat)) 0, cs.drop ds.length)

/-- A year: up to four digits, or any number of digits after a sign. -/
def readYear (cs : List Char) : Option (Int × List Char) :=
  match skipBlanks cs with
  | '-' :: rest =>
    if rest.head?.any Char.isDigit then
      (readNumber rest.length rest).map fun r => (-(r.1 : Int), r.2)
    else none
  | '+' :: rest =>
    if rest.head?.any Char.isDigit then
      (readNumber rest.length rest).map fun r => ((r.1 : Int), r.2)
    else none
  | cs => (readNumber 4 cs).map fun r => ((r.1 : Int), r.2)

/-- One character, after blanks. -/
def readMark (mark : Char) (cs : List Char) : Option (List Char) :=
  match skipBlanks cs with
  | c :: rest => if c = mark then some rest else none
  | [] => none

/-- Nanoseconds: a point and digits, of which nine count; none without a point. -/
def readFraction : List Char → Option (Nat × List Char)
  | '.' :: rest =>
    let ds := rest.takeWhile Char.isDigit
    if ds.isEmpty then none
    else
      let counted := ds.take 9
      let n := counted.foldl (fun n c => n * 10 + (c.toNat - '0'.toNat)) 0
      some (n * tens (9 - counted.length), rest.drop ds.length)
  | cs => some (0, cs)

/-- Two digits. -/
def readPair : List Char → Option (Nat × List Char)
  | a :: b :: rest =>
    if a.isDigit && b.isDigit then
      some ((a.toNat - '0'.toNat) * 10 + (b.toNat - '0'.toNat), rest)
    else none
  | _ => none

/-- Hours and minutes of an offset, in seconds. -/
def readOffsetTime (cs : List Char) : Option (Int × List Char) := do
  let (hours, cs) ← readPair cs
  let (minutes, cs) ← readPair (cs.dropWhile fun c => c == ':' || Text.isBlank c)
  if minutes < 60 ∧ hours < 24 then some ((hours * 3600 + minutes * 60 : Nat), cs) else none

/-- An offset from UTC in seconds: `Z`, `UTC`, or a sign with hours and minutes. -/
def readOffset (cs : List Char) : Option (Int × List Char) :=
  if (cs.take 3).map Char.toUpper = ['U', 'T', 'C'] then some (0, cs.drop 3)
  else
    match cs with
    | 'Z' :: rest => some (0, rest)
    | 'z' :: rest => some (0, rest)
    | '+' :: rest => readOffsetTime rest
    | '-' :: rest => (readOffsetTime rest).map fun r => (-r.1, r.2)
    | '\u2212' :: rest => (readOffsetTime rest).map fun r => (-r.1, r.2)
    | _ => none

/-- The years that a moment can lie in. -/
def yearInRange (year : Int) : Bool :=
  -262143 ≤ year && year ≤ 262142

/-- The moment of a date and a time of day at an offset; second 60 is a leap second. The year is in
range both at the offset and in UTC. -/
def ofParts? (date : Date) (hour minute second nano : Nat) (offset : Int) : Option Time :=
  let leap := if second = 60 then 1 else 0
  let total := date.toDays * 86400 + hour * 3600 + minute * 60 + (second - leap : Nat) - offset
  if h : date.isValid ∧ yearInRange date.year ∧ hour < 24 ∧ minute < 60 ∧ second ≤ 60 ∧
      yearInRange (Date.ofDays (total / 86400)).year ∧ nano < 1000000000 then
    some ⟨total, nano + leap * 1000000000, by
      have := h.2.2.2.2.2.2
      show nano + (if second = 60 then 1 else 0) * 1000000000 < 2000000000
      split <;> omega⟩
  else none

def ofChars? (cs : List Char) : Option Time := do
  let (year, cs) ← readYear cs
  let (month, cs) ← readNumber 2 (← readMark '-' cs)
  let (day, cs) ← readNumber 2 (← readMark '-' cs)
  let cs ← match cs with
    | c :: rest => if c = 'T' ∨ c = 't' ∨ c = ' ' then some rest else none
    | [] => none
  let (hour, cs) ← readNumber 2 cs
  let (minute, cs) ← readNumber 2 (← readMark ':' cs)
  let (second, cs) ← readNumber 2 (← readMark ':' cs)
  let (nano, cs) ← readFraction cs
  let (offset, cs) ← readOffset (skipBlanks cs)
  if (skipBlanks cs).isEmpty then
    ofParts? ⟨year, month, day⟩ hour minute second nano offset
  else none

def ofText? (s : String) : Option Time :=
  ofChars? s.toList

def ofJson? (j : Json) : Option Time :=
  j.string?.bind ofText?

end Daybook.Time
