import Daybook.Json
import Daybook.Power
import Daybook.Text.Natural

/-!
Identifiers of 128 bits, written in hexadecimal with hyphens between groups of 8, 4, 4, 4 and 12
digits. Reading also takes the 32 digits alone, and the hyphenated form in braces or as a URN.
Identifiers made here count upwards with time (version 7).
-/

namespace Daybook

structure Uuid where
  bits : BitVec 128
deriving DecidableEq

namespace Uuid

def nil : Uuid :=
  ⟨0⟩

def toNat (u : Uuid) : Nat :=
  u.bits.toNat

/-- The order of the sixteen bytes. -/
def le (a b : Uuid) : Bool :=
  a.toNat ≤ b.toNat

/-- The version digit, the first of the third group. -/
def version (u : Uuid) : Nat :=
  u.toNat / twos 76 % 16

/-- The identifier of version 7 with that time in milliseconds and that counter of 74 bits. -/
def timed (millis counter : Nat) : Uuid :=
  let high := counter / twos 62 % twos 12
  let low := counter % twos 62
  ⟨BitVec.ofNat 128 (millis * twos 80 + 7 * twos 76 + high * twos 64 + 2 * twos 62 + low)⟩

/-! ### Text -/

/-- The lower-case hexadecimal digits, 32 of them. -/
def digits (u : Uuid) : List Char :=
  Text.padded 16 32 u.toNat

def toChars (u : Uuid) : List Char :=
  let ds := u.digits
  ds.take 8 ++ '-' :: (ds.drop 8).take 4 ++ '-' :: (ds.drop 12).take 4 ++
    '-' :: (ds.drop 16).take 4 ++ '-' :: ds.drop 20

def toText (u : Uuid) : String :=
  String.ofList u.toChars

def hexDigit? (c : Char) : Option Nat :=
  if '0' ≤ c ∧ c ≤ '9' then some (c.toNat - '0'.toNat)
  else if 'a' ≤ c ∧ c ≤ 'f' then some (c.toNat - 'a'.toNat + 10)
  else if 'A' ≤ c ∧ c ≤ 'F' then some (c.toNat - 'A'.toNat + 10)
  else none

/-- The number that hexadecimal digits of either case spell. -/
def hexNumber? (cs : List Char) : Option Nat :=
  cs.foldl (fun n c => do some ((← n) * 16 + (← hexDigit? c))) (some 0)

def ofDigits? (cs : List Char) : Option Uuid :=
  if cs.length = 32 then (hexNumber? cs).map fun n => ⟨BitVec.ofNat 128 n⟩ else none

/-- Takes out the hyphens, which must stand between the groups and nowhere else. -/
def ofHyphenated? (cs : List Char) : Option Uuid :=
  if cs.length = 36 ∧ cs[8]? = some '-' ∧ cs[13]? = some '-' ∧ cs[18]? = some '-' ∧
      cs[23]? = some '-' then
    ofDigits? (cs.filter (· != '-'))
  else none

/-- What stands in front of the identifier in a URN, in any case. -/
def urn : List Char :=
  ['u', 'r', 'n', ':', 'u', 'u', 'i', 'd', ':']

def ofChars? (cs : List Char) : Option Uuid :=
  if cs.length = 32 then ofDigits? cs
  else if cs.length = 36 then ofHyphenated? cs
  else if cs.length = 38 ∧ cs.head? = some '{' ∧ cs.getLast? = some '}' then
    ofHyphenated? (cs.drop 1).dropLast
  else if cs.length = 45 ∧ (cs.take 9).map Char.toLower = urn then ofHyphenated? (cs.drop 9)
  else none

def ofText? (s : String) : Option Uuid :=
  ofChars? s.toList

def toJson (u : Uuid) : Json :=
  .string u.toText

def ofJson? (j : Json) : Option Uuid :=
  j.string?.bind ofText?

end Uuid
end Daybook
