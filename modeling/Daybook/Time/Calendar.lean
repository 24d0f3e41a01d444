import Daybook.Time

/-!
Dates of the Gregorian calendar, extended to all years, and the number of days since 1 January 1970.
Years are counted from March, so that a leap day is the last day of its year, in spans of 400 years,
which all have 146097 days.
-/

namespace Daybook

structure Date where
  year : Int
  month : Nat
  day : Nat
deriving DecidableEq

namespace Date

def isLeap (year : Int) : Bool :=
  year % 4 == 0 && (year % 100 != 0 || year % 400 == 0)

def daysInMonth (year : Int) (month : Nat) : Nat :=
  if month = 2 then (if isLeap year then 29 else 28)
  else if month = 4 ∨ month = 6 ∨ month = 9 ∨ month = 11 then 30
  else 31

def isValid (d : Date) : Bool :=
  1 ≤ d.month && d.month ≤ 12 && 1 ≤ d.day && d.day ≤ daysInMonth d.year d.month

/-- Days since 1 January 1970. -/
def toDays (d : Date) : Int :=
  let year := if d.month ≤ 2 then d.year - 1 else d.year
  let month : Int := if d.month ≤ 2 then d.month + 9 else d.month - 3
  let span := year / 400
  let yearOfSpan := year % 400
  let dayOfYear := (153 * month + 2) / 5 + d.day - 1
  span * 146097 + (yearOfSpan * 365 + yearOfSpan / 4 - yearOfSpan / 100 + dayOfYear) - 719468

/-- The date that many days after 1 January 1970. -/
def ofDays (n : Int) : Date :=
  let z := n + 719468
  let span := z / 146097
  let dayOfSpan := z % 146097
  let yearOfSpan :=
    (dayOfSpan - dayOfSpan / 1460 + dayOfSpan / 36524 - dayOfSpan / 146096) / 365
  let dayOfYear := dayOfSpan - (365 * yearOfSpan + yearOfSpan / 4 - yearOfSpan / 100)
  let month := (5 * dayOfYear + 2) / 153
  let day := dayOfYear - (153 * month + 2) / 5 + 1
  let civilMonth := if month < 10 then month + 3 else month - 9
  ⟨span * 400 + yearOfSpan + (if civilMonth ≤ 2 then 1 else 0), civilMonth.toNat, day.toNat⟩

end Date
end Daybook
