import Daybook.Proofs.Text.Padded
import Daybook.Proofs.Time.Calendar
import Daybook.Time.Text

/-!
Moments that are written and read again. Every part has a fixed number of digits, or stands before a mark,
so the readers take the parts as they were written. A leap second comes back exactly when it is the last
second of its minute (`Time.ofText_toText_iff`), and no other is ever read (`Time.proper_of_ofChars`).
-/

namespace Daybook.Time

variable {t : Time} {width n : Nat} {rest cs : List Char} {c : Char}

/-- The year of a moment in UTC. -/
def year (t : Time) : Int :=
  (Date.ofDays (t.second / 86400)).year

/-- A leap second is the last second of a minute. -/
def Proper (t : Time) : Prop :=
  t.nano < 1000000000 ∨ t.second % 60 = 59

/-! ### The parts -/

theorem skipBlanks_cons (h : Text.isBlank c = false) : skipBlanks (c :: cs) = c :: cs :=
  List.dropWhile_cons_of_neg (by rw [h]; decide)

theorem readMark_cons (h : Text.isBlank c = false) : readMark c (c :: cs) = some cs := by
  rw [readMark, skipBlanks_cons h]
  exact if_pos rfl

theorem foldl_padded (width n : Nat) :
    (padded width n).foldl (fun n c => n * 10 + (c.toNat - '0'.toNat)) 0 = n :=
  Text.foldl_decimal width n

theorem isDigit_of_mem_padded (h : c ∈ padded width n) : c.isDigit = true :=
  Text.isDigit_of_mem_padded h

theorem exists_padded (hwidth : 0 < width) :
    ∃ c cs, padded width n = c :: cs ∧ c.isDigit = true := by
  have hlength : width ≤ (padded width n).length := Text.le_length_padded
  obtain ⟨c, cs, hcs⟩ := List.exists_cons_of_length_pos (show 0 < (padded width n).length by omega)
  exact ⟨c, cs, hcs, isDigit_of_mem_padded (show c ∈ padded width n from hcs ▸ List.mem_cons_self)⟩

theorem takeWhile_padded (rest : List Char) :
    (padded width n ++ rest).takeWhile Char.isDigit = padded width n ++ rest.takeWhile Char.isDigit :=
  List.takeWhile_append_of_pos fun _ => isDigit_of_mem_padded

theorem isEmpty_padded (hwidth : 0 < width) : (padded width n).isEmpty = false := by
  obtain ⟨c, cs, hcs, -⟩ := exists_padded (n := n) hwidth
  rw [hcs]
  rfl

/-- A number that fills its width is read back, whatever follows it. -/
theorem readNumber_padded (hwidth : 0 < width) (h : n < 10 ^ width) :
    readNumber width (padded width n ++ rest) = some (n, rest) := by
  have hlength : (padded width n).length = width := Text.length_padded (by decide) hwidth h
  have hskip : skipBlanks (padded width n ++ rest) = padded width n ++ rest := by
    obtain ⟨c, cs, hcs, hdigit⟩ := exists_padded (n := n) hwidth
    rw [hcs, List.cons_append, skipBlanks_cons (Text.isBlank_of_isDigit hdigit)]
  have htake : ((padded width n ++ rest).take width).takeWhile Char.isDigit = padded width n := by
    have hall : (padded width n ++ []).takeWhile Char.isDigit = padded width n ++ [] :=
      takeWhile_padded []
    rw [List.append_nil] at hall
    rw [List.take_left' hlength, hall]
  simp only [readNumber, hskip, htake, isEmpty_padded hwidth, foldl_padded, List.drop_left]
  rfl

theorem readYear_padded (h : n < 10000) : readYear (padded 4 n ++ rest) = some ((n : Int), rest) := by
  have hread : readNumber 4 (padded 4 n ++ rest) = some (n, rest) := readNumber_padded (by decide) h
  obtain ⟨c, cs, hcs, hdigit⟩ := exists_padded (n := n) (show 0 < 4 by decide)
  have hskip : skipBlanks (padded 4 n ++ rest) = padded 4 n ++ rest := by
    rw [hcs, List.cons_append, skipBlanks_cons (Text.isBlank_of_isDigit hdigit)]
  rw [readYear, hskip]
  rw [hcs, List.cons_append] at hread ⊢
  split
  · rename_i heq
    obtain rfl := (List.cons.inj heq).1
    cases hdigit
  · rename_i heq
    obtain rfl := (List.cons.inj heq).1
    cases hdigit
  · rw [hread]
    rfl

/-- Digits behind the point, up to something that is no digit. -/
theorem readFraction_padded (hwidth : 0 < width) (hnine : width ≤ 9) (h : n < 10 ^ width)
    (hc : c.isDigit = false) :
    readFraction ('.' :: (padded width n ++ c :: rest)) = some (n * tens (9 - width), c :: rest) := by
  have hlength : (padded width n).length = width := Text.length_padded (by decide) hwidth h
  have hdigits : (padded width n ++ c :: rest).takeWhile Char.isDigit = padded width n := by
    rw [takeWhile_padded, List.takeWhile_cons_of_neg (by rw [hc]; decide), List.append_nil]
  have hcounted : (padded width n).take 9 = padded width n := List.take_of_length_le (by omega)
  simp only [readFraction, hdigits, isEmpty_padded hwidth, hcounted, foldl_padded, hlength]
  rw [List.drop_left' hlength]
  rfl

/-- Trailing zeros that were left out are put back. -/
theorem readFraction_fractionChars (h : n < 1000000000) :
    readFraction (fractionChars n ++ 'Z' :: rest) = some (n, 'Z' :: rest) := by
  have hZ : 'Z'.isDigit = false := rfl
  rw [fractionChars]
  split_ifs with hzero hmillis hmicros
  · subst hzero
    rfl
  · have hback : n / 1000000 * tens (9 - 3) = n := by
      exact Nat.div_mul_cancel (Nat.dvd_of_mod_eq_zero hmillis)
    rw [List.cons_append, readFraction_padded (by decide) (by decide) (by omega) hZ, hback]
  · have hback : n / 1000 * tens (9 - 6) = n := by
      exact Nat.div_mul_cancel (Nat.dvd_of_mod_eq_zero hmicros)
    rw [List.cons_append, readFraction_padded (by decide) (by decide) (by omega) hZ, hback]
  · have hback : n * tens (9 - 9) = n := Nat.mul_one n
    rw [List.cons_append, readFraction_padded (by decide) (by decide) (by omega) hZ, hback]

/-! ### The moment -/

/-- The date in front of a moment. -/
def readDate (cs : List Char) : Option (Date × List Char) := do
  let (year, cs) ← readYear cs
  let (month, cs) ← readNumber 2 (← readMark '-' cs)
  let (day, cs) ← readNumber 2 (← readMark '-' cs)
  some (⟨year, month, day⟩, cs)

/-- What stands between date and time of day. -/
def readSeparator : List Char → Option (List Char)
  | c :: rest => if c = 'T' ∨ c = 't' ∨ c = ' ' then some rest else none
  | [] => none

/-- The time of day and the offset. -/
def readClock (date : Date) (cs : List Char) : Option Time := do
  let (hour, cs) ← readNumber 2 cs
  let (minute, cs) ← readNumber 2 (← readMark ':' cs)
  let (second, cs) ← readNumber 2 (← readMark ':' cs)
  let (nano, cs) ← readFraction cs
  let (offset, cs) ← readOffset (skipBlanks cs)
  if (skipBlanks cs).isEmpty then ofParts? date hour minute second nano offset else none

/-- A moment is read in three parts. -/
theorem ofChars_eq (cs : List Char) :
    ofChars? cs = (readDate cs).bind fun r => (readSeparator r.2).bind (readClock r.1) := by
  simp only [readDate, Option.bind_eq_bind, Option.bind_assoc, Option.bind_some]
  refine Option.bind_congr fun r _ => Option.bind_congr fun cs₁ _ => Option.bind_congr fun r₁ _ =>
    Option.bind_congr fun cs₂ _ => Option.bind_congr fun r₂ _ => ?_
  obtain ⟨day, cs₃⟩ := r₂
  cases cs₃ with
  | nil => rfl
  | cons c rest =>
      by_cases hmark : c = 'T' ∨ c = 't' ∨ c = ' '
      · rw [readSeparator, if_pos hmark]
        exact if_pos hmark
      · rw [readSeparator, if_neg hmark]
        exact if_neg hmark

/-- The parts that are written of a date are read. -/
theorem readDate_written {date : Date} (hvalid : date.isValid = true) (h : 0 ≤ date.year ∧ date.year ≤ 9999) :
    readDate (yearChars date.year ++ '-' :: (padded 2 date.month ++ '-' :: (padded 2 date.day ++ rest))) =
      some (date, rest) := by
  obtain ⟨hmonth, hday⟩ := Date.range_of_isValid hvalid
  have hyear : yearChars date.year = padded 4 date.year.natAbs := by
    rw [yearChars, if_neg (by omega), if_neg (by omega)]
  have hback : ((date.year.natAbs : Nat) : Int) = date.year := Int.natAbs_of_nonneg h.1
  have hhyphen : Text.isBlank '-' = false := rfl
  simp only [readDate, hyear, readYear_padded (show date.year.natAbs < 10000 by omega), Option.bind_eq_bind,
    Option.bind_some, readMark_cons hhyphen, readNumber_padded (show 0 < 2 by decide)
    (show date.month < 10 ^ 2 by omega), readNumber_padded (show 0 < 2 by decide)
    (show date.day < 10 ^ 2 by omega), hback]

theorem readClock_written (date : Date) {hour minute second nano : Nat}
    (h : hour < 24 ∧ minute < 60 ∧ second ≤ 60 ∧ nano < 1000000000) :
    readClock date (padded 2 hour ++ ':' :: (padded 2 minute ++ ':' :: (padded 2 second ++
      (fractionChars nano ++ ['Z'])))) = ofParts? date hour minute second nano 0 := by
  have htwo : 0 < 2 := by decide
  have hmarks : Text.isBlank ':' = false ∧ Text.isBlank 'Z' = false := ⟨rfl, rfl⟩
  simp only [readClock, Option.bind_eq_bind, Option.bind_some, readMark_cons hmarks.1,
    readNumber_padded htwo (show hour < 10 ^ 2 by omega),
    readNumber_padded htwo (show minute < 10 ^ 2 by omega),
    readNumber_padded htwo (show second < 10 ^ 2 by omega), readFraction_fractionChars h.2.2.2,
    skipBlanks_cons hmarks.2]
  rfl

/-- The second as it is written: a leap second is the one after the second that it belongs to. -/
def leap (t : Time) : Nat :=
  if t.nano < 1000000000 then 0 else 1

theorem leap_cases (t : Time) :
    (t.nano < 1000000000 ∧ t.leap = 0) ∨ (1000000000 ≤ t.nano ∧ t.leap = 1) := by
  by_cases hplain : t.nano < 1000000000
  · exact Or.inl ⟨hplain, if_pos hplain⟩
  · exact Or.inr ⟨not_lt.1 hplain, if_neg hplain⟩

theorem leap_range (t : Time) : t.leap ≤ 1 ∧ t.nano - t.leap * 1000000000 < 1000000000 := by
  have := t.nano_lt
  rcases t.leap_cases with ⟨hnano, hleap⟩ | ⟨hnano, hleap⟩ <;> rw [hleap] <;> omega

/-- The parts that are written of a moment are read. -/
theorem ofChars_toChars (h : 0 ≤ t.year ∧ t.year ≤ 9999) :
    ofChars? t.toChars = ofParts? (Date.ofDays (t.second / 86400)) ((t.second % 86400).toNat / 3600)
      ((t.second % 86400).toNat / 60 % 60) ((t.second % 86400).toNat % 60 + t.leap)
      (t.nano - t.leap * 1000000000) 0 := by
  obtain ⟨hleap, hnano⟩ := t.leap_range
  have hday : (t.second % 86400).toNat < 86400 := by omega
  have hwritten : t.toChars = yearChars t.year ++ '-' :: (padded 2 (Date.ofDays (t.second / 86400)).month ++
      '-' :: (padded 2 (Date.ofDays (t.second / 86400)).day ++ 'T' :: (padded 2 ((t.second % 86400).toNat / 3600) ++
      ':' :: (padded 2 ((t.second % 86400).toNat / 60 % 60) ++ ':' ::
        (padded 2 ((t.second % 86400).toNat % 60 + t.leap) ++
          (fractionChars (t.nano - t.leap * 1000000000) ++ ['Z'])))))) := by
    simp only [toChars, clockChars, year, leap, List.append_assoc, List.cons_append]
  rw [hwritten, ofChars_eq, year, readDate_written (Date.isValid_ofDays _) h, Option.bind_some]
  exact readClock_written _ (by omega)

/-- A leap second is read as the last second of its minute. -/
theorem proper_of_ofParts {date : Date} {hour minute second nano : Nat} {offset : Int}
    (hoffset : offset % 60 = 0) (h : ofParts? date hour minute second nano offset = some t) : t.Proper := by
  obtain ⟨hparts, h⟩ := Option.dite_none_right_eq_some.1 h
  have hnano := hparts.2.2.2.2.2.2
  cases h
  by_cases hleap : second = 60
  · right
    simp only [hleap, if_true]
    omega
  · left
    simpa only [if_neg hleap, Nat.zero_mul, Nat.add_zero] using hnano

theorem readOffsetTime_minutes {offset : Int} (h : readOffsetTime cs = some (offset, rest)) :
    offset % 60 = 0 := by
  simp only [readOffsetTime, Option.bind_eq_bind, Option.bind_eq_some_iff] at h
  obtain ⟨hours, -, minutes, -, h⟩ := h
  split_ifs at h
  cases h
  omega

/-- Offsets are hours and minutes. -/
theorem readOffset_minutes {offset : Int} (h : readOffset cs = some (offset, rest)) : offset % 60 = 0 := by
  have hopposite : ∀ cs' : List Char,
      ((readOffsetTime cs').map fun r => (-r.1, r.2)) = some (offset, rest) → offset % 60 = 0 := by
    intro cs' hread
    obtain ⟨⟨n, rest'⟩, hn, hpair⟩ := Option.map_eq_some_iff.1 hread
    cases hpair
    have := readOffsetTime_minutes hn
    omega
  unfold readOffset at h
  split_ifs at h
  · cases h
    rfl
  · split at h
    · cases h
      rfl
    · cases h
      rfl
    · exact readOffsetTime_minutes h
    · exact hopposite _ h
    · exact hopposite _ h
    · cases h

theorem proper_of_readClock {date : Date} (h : readClock date cs = some t) : t.Proper := by
  simp only [readClock, Option.bind_eq_bind, Option.bind_eq_some_iff] at h
  obtain ⟨hour, -, -, -, minute, -, -, -, second, -, nano, -, ⟨offset, rest⟩, hoffset, h⟩ := h
  split_ifs at h
  exact proper_of_ofParts (readOffset_minutes hoffset) h

/-- **No leap second is read that is not the last second of its minute.** -/
theorem proper_of_ofChars (h : ofChars? cs = some t) : t.Proper := by
  rw [ofChars_eq, Option.bind_eq_some_iff] at h
  obtain ⟨r, -, h⟩ := h
  obtain ⟨cs', -, h⟩ := Option.bind_eq_some_iff.1 h
  exact proper_of_readClock h

/-- The parts of a proper moment make the moment. -/
theorem ofParts_written (h : 0 ≤ t.year ∧ t.year ≤ 9999) (hproper : t.Proper) :
    ofParts? (Date.ofDays (t.second / 86400)) ((t.second % 86400).toNat / 3600)
      ((t.second % 86400).toNat / 60 % 60) ((t.second % 86400).toNat % 60 + t.leap)
      (t.nano - t.leap * 1000000000) 0 = some t := by
  obtain ⟨hleap, hnano⟩ := t.leap_range
  have hsixty : (if (t.second % 86400).toNat % 60 + t.leap = 60 then 1 else 0) = t.leap := by
    rcases t.leap_cases with ⟨hplain, hnone⟩ | ⟨hnot, hone⟩
    · rw [hnone, if_neg (by omega)]
    · have hlast : t.second % 60 = 59 := hproper.resolve_left (by omega)
      rw [hone, if_pos (by omega)]
  have hback : t.nano - t.leap * 1000000000 + t.leap * 1000000000 = t.nano := by
    rcases t.leap_cases with ⟨-, hcase⟩ | ⟨hmore, hcase⟩ <;> rw [hcase]
    · rfl
    · exact Nat.sub_add_cancel (by omega)
  have htotal : (Date.ofDays (t.second / 86400)).toDays * 86400 +
      (((t.second % 86400).toNat / 3600 : Nat) : Int) * 3600 +
      (((t.second % 86400).toNat / 60 % 60 : Nat) : Int) * 60 +
      (((t.second % 86400).toNat % 60 + t.leap - t.leap : Nat) : Int) - 0 = t.second := by
    rw [Date.toDays_ofDays, Nat.add_sub_cancel]
    omega
  have hyear : yearInRange (Date.ofDays (t.second / 86400)).year = true := by
    rw [year] at h
    simp only [yearInRange, Bool.and_eq_true, decide_eq_true_eq]
    omega
  simp only [ofParts?, hsixty, htotal, hback]
  exact dif_pos ⟨Date.isValid_ofDays _, hyear, by omega, by omega, by omega, hyear, hnano⟩

/-- **A moment of a year of four digits is read as it was written** exactly when it is proper. -/
theorem ofText_toText_iff (h : 0 ≤ t.year ∧ t.year ≤ 9999) : ofText? t.toText = some t ↔ t.Proper := by
  rw [ofText?, toText, String.toList_ofList]
  refine ⟨proper_of_ofChars, fun hproper => ?_⟩
  rw [ofChars_toChars h]
  exact ofParts_written h hproper

theorem ofJson_toJson (t : Time) : ofJson? t.toJson = ofText? t.toText := by
  rw [ofJson?, toJson, Json.string?, Option.bind_some]

end Daybook.Time
