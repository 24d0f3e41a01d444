import Daybook.Time.Calendar
import Mathlib.Tactic.IntervalCases
import Mathlib.Tactic.Common

/-!
The calendar counts every day once. A span of 400 years has four centuries, each of 25 times four years
but for the last of them, and only the last year of four has a leap day at its end (`Date.Lies`). From where
a day lies the date can be read off, and its number comes back from the date (`Date.toDays_ofDays`).
-/

namespace Daybook.Date

/-- Where a day lies: in which span of 400 years, in which century of it, in which four years of that, in
which of the four, and which day of this year it is, counted from 1 March. -/
structure Lies (n span century four year day : Int) : Prop where
  century_range : 0 ≤ century ∧ century ≤ 3
  four_range : 0 ≤ four ∧ four ≤ 24
  year_range : 0 ≤ year ∧ year ≤ 3
  day_range : 0 ≤ day ∧ day ≤ 365
  leap : day = 365 → year = 3 ∧ (four = 24 → century = 3)
  count : n + 719468 = 146097 * span + (36524 * century + 1461 * four + 365 * year + day)

theorem exists_lies (n : Int) : ∃ span century four year day, Lies n span century four year day := by
  obtain ⟨span, z, hz, hcount⟩ : ∃ span z, (0 ≤ z ∧ z < 146097) ∧ n + 719468 = 146097 * span + z :=
    ⟨(n + 719468) / 146097, (n + 719468) % 146097, by omega, by omega⟩
  obtain ⟨century, r, hcentury, hr, hzr⟩ : ∃ century r, (0 ≤ century ∧ century ≤ 3) ∧
      (0 ≤ r ∧ r ≤ 36524 ∧ (r = 36524 → century = 3)) ∧ z = 36524 * century + r :=
    ⟨min (z / 36524) 3, z - 36524 * min (z / 36524) 3, by omega, by omega, by omega⟩
  obtain ⟨four, s, hfour, hs, hrs⟩ : ∃ four s, (0 ≤ four ∧ four ≤ 24) ∧
      (0 ≤ s ∧ s ≤ 1460 ∧ (s = 1460 → four = 24 → r = 36524)) ∧ r = 1461 * four + s :=
    ⟨r / 1461, r % 1461, by omega, by omega, by omega⟩
  obtain ⟨year, day, hyear, hday, hsday⟩ : ∃ year day, (0 ≤ year ∧ year ≤ 3) ∧
      (0 ≤ day ∧ day ≤ 365 ∧ (day = 365 → year = 3)) ∧ s = 365 * year + day :=
    ⟨min (s / 365) 3, s - 365 * min (s / 365) 3, by omega, by omega, by omega⟩
  exact ⟨span, century, four, year, day, hcentury, hfour, hyear, ⟨hday.1, hday.2.1⟩,
    fun hleap => ⟨hday.2.2 hleap, fun hlast => by omega⟩, by omega⟩

variable {n span century four year day : Int}

/-- The year of the span, as it is computed. -/
theorem Lies.yearOfSpan (h : Lies n span century four year day) {z : Int}
    (hz : z = 36524 * century + 1461 * four + 365 * year + day) :
    (z - z / 1460 + z / 36524 - z / 146096) / 365 = 100 * century + 4 * four + year := by
  obtain ⟨hcentury, hfour, hyear, hday, hleap, -⟩ := h
  by_cases hlast : z = 146096
  · have : century = 3 ∧ four = 24 ∧ year = 3 := by omega
    rw [hlast]
    omega
  · have hspan : z / 146096 = 0 := by omega
    have hcount : z / 36524 = century := by omega
    -- A day is lost in 1460 as often as four years have ended, and once more late in the fourth year.
    by_cases hlate : 1460 ≤ 24 * century + four + 365 * year + day
    · have hquotient : z / 1460 = 25 * century + four + 1 := by omega
      omega
    · have hquotient : z / 1460 = 25 * century + four := by omega
      omega

/-- The leap days before a year of the span. -/
theorem Lies.leapDays (h : Lies n span century four year day) :
    (100 * century + 4 * four + year) / 4 = 25 * century + four ∧
      (100 * century + 4 * four + year) / 100 = century := by
  obtain ⟨hcentury, hfour, hyear, -, -, -⟩ := h
  omega

/-- The date of a day, read off from where it lies. -/
theorem Lies.ofDays_eq (h : Lies n span century four year day) :
    ofDays n =
      let month := (5 * day + 2) / 153
      let civil := if month < 10 then month + 3 else month - 9
      ⟨span * 400 + (100 * century + 4 * four + year) + (if civil ≤ 2 then 1 else 0), civil.toNat,
        (day - (153 * month + 2) / 5 + 1).toNat⟩ := by
  obtain ⟨hcentury, hfour, hyear, hday, hleap, hcount⟩ := id h
  have hspan : (n + 719468) / 146097 = span := by omega
  have hrest : (n + 719468) % 146097 = 36524 * century + 1461 * four + 365 * year + day := by omega
  have hdayOfYear : (n + 719468) % 146097 -
      (365 * (100 * century + 4 * four + year) + (100 * century + 4 * four + year) / 4 -
        (100 * century + 4 * four + year) / 100) = day := by
    rw [h.leapDays.1, h.leapDays.2]
    omega
  simp only [ofDays, h.yearOfSpan hrest, hdayOfYear, hspan]

/-- The number of a day of a year that is counted from March. -/
theorem Lies.count_eq (h : Lies n span century four year day) {marchYear : Int}
    (hyear : marchYear = span * 400 + (100 * century + 4 * four + year)) :
    marchYear / 400 * 146097 + (marchYear % 400 * 365 + marchYear % 400 / 4 - marchYear % 400 / 100 + day) -
      719468 = n := by
  obtain ⟨hcentury, hfour, hyears, hday, hleap, hcount⟩ := id h
  have hspan : marchYear / 400 = span := by omega
  have hrest : marchYear % 400 = 100 * century + 4 * four + year := by omega
  rw [hspan, hrest, h.leapDays.1, h.leapDays.2]
  omega

/-- The months have 153 days in five, so the month and the day of it can be told from the day. -/
theorem month_of_day (hday : 0 ≤ day ∧ day ≤ 365) :
    ∃ month dayOfMonth : Int, (5 * day + 2) / 153 = month ∧ day - (153 * month + 2) / 5 + 1 = dayOfMonth ∧
      (0 ≤ month ∧ month ≤ 11) ∧ 1 ≤ dayOfMonth ∧
      (month = 11 → dayOfMonth = day - 336) ∧
      (month = 1 ∨ month = 3 ∨ month = 6 ∨ month = 8 → dayOfMonth ≤ 30) ∧ dayOfMonth ≤ 31 := by
  refine ⟨(5 * day + 2) / 153, _, rfl, rfl, by omega, ?_⟩
  generalize hmonth : (5 * day + 2) / 153 = month
  have hrange : 0 ≤ month ∧ month ≤ 11 := by omega
  obtain ⟨hlow, hhigh⟩ := hrange
  interval_cases month <;> omega

/-- **The number of a day comes back from its date.** -/
theorem toDays_ofDays (n : Int) : (ofDays n).toDays = n := by
  obtain ⟨span, century, four, year, day, h⟩ := exists_lies n
  obtain ⟨month, dayOfMonth, hmonth, hdayOfMonth, hrange, hfirst, -⟩ := month_of_day h.day_range
  rw [h.ofDays_eq]
  simp only [toDays, hmonth, hdayOfMonth]
  have hday : (153 * month + 2) / 5 + ((dayOfMonth.toNat : Nat) : Int) - 1 = day := by omega
  by_cases hearly : month < 10
  · have hcivil : ¬ (month + 3).toNat ≤ 2 := by omega
    have hback : (((month + 3).toNat : Nat) : Int) - 3 = month := by omega
    simp only [if_pos hearly, if_neg hcivil, if_neg (show ¬ month + 3 ≤ 2 by omega), hback, hday]
    exact h.count_eq (Int.add_zero _)
  · have hcivil : (month - 9).toNat ≤ 2 := by omega
    have hback : (((month - 9).toNat : Nat) : Int) + 9 = month := by omega
    simp only [if_neg hearly, if_pos hcivil, if_pos (show month - 9 ≤ 2 by omega), hback, hday]
    exact h.count_eq (Int.add_sub_cancel _ _)

/-- February has its 29th day only at the end of a leap year. -/
theorem Lies.isLeap (h : Lies n span century four year day) (hday : day = 365) :
    isLeap (span * 400 + (100 * century + 4 * four + year) + 1) = true := by
  obtain ⟨hthird, hlast⟩ := h.leap hday
  obtain ⟨hcentury, hfour, -, -, -, -⟩ := h
  simp only [Date.isLeap, Bool.and_eq_true, Bool.or_eq_true, beq_iff_eq, bne_iff_ne]
  omega

theorem range_of_isValid {d : Date} (h : d.isValid = true) : d.month ≤ 12 ∧ d.day ≤ 31 := by
  simp only [isValid, daysInMonth, Bool.and_eq_true] at h
  obtain ⟨⟨⟨-, hmonth⟩, -⟩, hday⟩ := h
  refine ⟨of_decide_eq_true hmonth, (of_decide_eq_true hday).trans ?_⟩
  split_ifs <;> decide

/-- A day has a date of the calendar. -/
theorem isValid_ofDays (n : Int) : (ofDays n).isValid = true := by
  obtain ⟨span, century, four, year, day, h⟩ := exists_lies n
  obtain ⟨month, dayOfMonth, hmonth, hdayOfMonth, hrange, hfirst, hfebruary, hthirty, hall⟩ :=
    month_of_day h.day_range
  have hleap := h.isLeap
  have hlast := h.day_range.2
  rw [h.ofDays_eq]
  simp only [isValid, daysInMonth, hmonth, hdayOfMonth, Bool.and_eq_true, decide_eq_true_eq]
  by_cases hearly : month < 10
  · simp only [if_pos hearly, if_neg (show ¬ (month + 3).toNat = 2 by omega)]
    refine ⟨⟨⟨by omega, by omega⟩, by omega⟩, ?_⟩
    split_ifs with hshort <;> omega
  · simp only [if_neg hearly, if_pos (show month - 9 ≤ 2 by omega)]
    refine ⟨⟨⟨by omega, by omega⟩, by omega⟩, ?_⟩
    split_ifs with htwo hlong
    · omega
    · have hless : day ≠ 365 := fun hday => hlong (hleap hday)
      omega
    all_goals omega

end Daybook.Date
