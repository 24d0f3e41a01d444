import Daybook.Proofs.Decimal.Numeral

/-!
How numerals are read. Digits behind the point are taken while there is room for them, and the first one
that is left out decides how the others are rounded. So the decimal that is read is the number, rounded
half away from zero to as many of 28 places as there is room for (`Numeral.rounds_of_read`), although the
mantissa may run full in the rounding and the reader then gives up a place.
-/

namespace Daybook.Decimal

variable {x : Rat} {m s d : Nat}

/-- Mantissa and scale that were read are those of the number, rounded to the room there is. -/
def Reads (x : Rat) (r : Option (Nat × Nat)) : Prop :=
  ∃ m s, r = some (m, s) ∧ m < twos 96 ∧ s ≤ 28 ∧
    RoundsAway (roomiest 28 x) x ((m : Rat) / (tens s : Nat))

/-- Without a digit left out nothing is rounded. -/
theorem reads_exact (hm : m < twos 96) (hs : s ≤ 28) : Reads ((m : Rat) / (tens s : Nat)) (some (m, s)) := by
  refine ⟨m, s, rfl, hm, hs, ?_⟩
  have hvalue : (⟨false, m, s, hm, hs⟩ : Decimal).value = (m : Rat) / (tens s : Nat) := by
    simp [value, signed]
  rw [← hvalue]
  exact nearest_roomiest hs

/-- A number in parts; zero has lost its sign and not its value. -/
theorem exists_ofParts (negative : Bool) (hm : m < twos 96) (hs : s ≤ 28) :
    ∃ d, ofParts? negative m s = some d ∧
      d.value = if negative then -((m : Rat) / (tens s : Nat)) else (m : Rat) / (tens s : Nat) := by
  refine ⟨_, dif_pos ⟨hm, hs⟩, ?_⟩
  cases negative with
  | false => simp [value, signed]
  | true => by_cases hzero : m = 0 <;> simp [value, signed, hzero, neg_div]

/-! ### Leaving out digits -/

theorem room_iff_of_nonneg (hx : 0 ≤ x) (p : Nat) :
    Room p x ↔ x * (tens p : Nat) < (twos 96 : Nat) - 1 / 2 := by
  rw [Room, abs_of_nonneg hx]

theorem roundsAway_of_nonneg {p n : Nat} (hx : 0 ≤ x) (hlow : 2 * (n : Rat) - 1 ≤ 2 * (x * (tens p : Nat)))
    (hhigh : 2 * (x * (tens p : Nat)) < 2 * (n : Rat) + 1) : RoundsAway p x ((n : Rat) / (tens p : Nat)) := by
  rw [RoundsAway.iff_of_nonneg hx]
  exact ⟨n, by rw [Int.cast_natCast], by rwa [Int.cast_natCast], by rwa [Int.cast_natCast]⟩

/-- The first digit that is left out tells on which side of the half the number is. -/
theorem nearest_of_digit {y : Rat} (hd : d < 10) (hlow : ((m * 10 + d : Nat) : Rat) ≤ y * 10)
    (hhigh : y * 10 < ((m * 10 + d + 1 : Nat) : Rat)) :
    let n := if 5 ≤ d then m + 1 else m
    2 * (n : Rat) - 1 ≤ 2 * y ∧ 2 * y < 2 * n + 1 := by
  have hnine : (d : Rat) ≤ 9 := by exact_mod_cast Nat.le_of_lt_succ hd
  push_cast at hlow hhigh
  intro n
  by_cases hup : 5 ≤ d
  · have hn : n = m + 1 := if_pos hup
    have hfive : (5 : Rat) ≤ d := by exact_mod_cast hup
    rw [hn]
    push_cast
    constructor <;> linarith
  · have hn : n = m := if_neg hup
    have hfour : (d : Rat) ≤ 4 := by exact_mod_cast Nat.le_of_lt_succ (not_le.1 hup)
    have hzero : (0 : Rat) ≤ d := Nat.cast_nonneg d
    rw [hn]
    constructor <;> linarith

/-- A digit that is left out has no room. -/
theorem places_le_of_full (hx : 0 ≤ x) (hfull : s = 28 ∨ twos 96 ≤ m * 10 + d)
    (hlow : ((m * 10 + d : Nat) : Rat) ≤ x * (tens s : Nat) * 10) {q : Nat} (hq : q ≤ 28) (hmore : Room q x) :
    q ≤ s := by
  by_contra hlater
  have hdigits : twos 96 ≤ m * 10 + d := hfull.resolve_left (by omega)
  have hcast : ((twos 96 : Nat) : Rat) ≤ ((m * 10 + d : Nat) : Rat) := by exact_mod_cast hdigits
  have hnext := (room_iff_of_nonneg hx _).1 (hmore.mono (show s + 1 ≤ q by omega))
  rw [tens_succ, Nat.cast_mul, ← mul_assoc, Nat.cast_ofNat] at hnext
  linarith

/-- Rounding at the last digit that is kept. -/
theorem reads_rounded {n : Nat} (hx : 0 ≤ x) (hs : s ≤ 28) (hn : n < twos 96)
    (hlast : ∀ q ≤ 28, Room q x → q ≤ s) (hbelow : 2 * (n : Rat) - 1 ≤ 2 * (x * (tens s : Nat)))
    (habove : 2 * (x * (tens s : Nat)) < 2 * (n : Rat) + 1) : Reads x (some (n, s)) := by
  have hcast : (n : Rat) + 1 ≤ (twos 96 : Nat) := by exact_mod_cast hn
  have hplaces : roomiest 28 x = s :=
    roomiest_eq hs ((room_iff_of_nonneg hx s).2 (by linarith)) hlast
  refine ⟨n, s, rfl, hn, hs, ?_⟩
  rw [hplaces]
  exact roundsAway_of_nonneg hx hbelow habove

/-- When the mantissa runs full in the rounding, the place before is the last one with room, and the four
that is added is too little to change how the number is rounded there. -/
theorem reads_carried (hx : 0 ≤ x) (hs : s + 1 ≤ 28)
    (hbelow : 2 * ((twos 96 : Nat) : Rat) - 1 ≤ 2 * (x * (tens (s + 1) : Nat)))
    (habove : 2 * (x * (tens (s + 1) : Nat)) < 2 * ((twos 96 : Nat) : Rat) + 1) :
    Reads x (some ((twos 96 + 4) / 10, s)) := by
  have hten : (10 : Rat) * ((twos 96 + 4) / 10 : Nat) = (twos 96 : Nat) + 4 := by norm_num [twos]
  have hlast : ∀ q ≤ 28, Room q x → q ≤ s := by
    intro q hq hmore
    by_contra hlater
    have hnext := (room_iff_of_nonneg hx _).1 (hmore.mono (show s + 1 ≤ q by omega))
    linarith
  rw [tens_succ, Nat.cast_mul, ← mul_assoc, Nat.cast_ofNat] at hbelow habove
  exact reads_rounded hx (by omega) (by decide) hlast (by linarith) (by linarith)

/-- Leaving out the digits from `d` on, where there is no room for that one. -/
theorem reads_roundedAt (hm : m < twos 96) (hs : s ≤ 28) (hd : d < 10)
    (hfull : s = 28 ∨ twos 96 ≤ m * 10 + d)
    (hlow : ((m * 10 + d : Nat) : Rat) ≤ x * (tens s : Nat) * 10)
    (hhigh : x * (tens s : Nat) * 10 < ((m * 10 + d + 1 : Nat) : Rat)) (hroom : Room 0 x) :
    Reads x (roundedAt m s d) := by
  have hx : 0 ≤ x := by
    by_contra hneg
    have hcount : x * (tens s : Nat) < 0 := mul_neg_of_neg_of_pos (not_le.1 hneg) (tens_cast_pos s)
    have : (0 : Rat) ≤ ((m * 10 + d : Nat) : Rat) := Nat.cast_nonneg _
    linarith
  obtain ⟨hbelow, habove⟩ := nearest_of_digit hd hlow hhigh
  have hstep : (if 5 ≤ d then m + 1 else m) ≤ m + 1 := by split <;> omega
  rw [roundedAt]
  generalize (if 5 ≤ d then m + 1 else m) = n at *
  by_cases hsmall : n < twos 96
  · simp only [if_pos hsmall]
    exact reads_rounded hx hs hsmall (fun q hq => places_le_of_full hx hfull hlow hq) hbelow habove
  · obtain rfl : n = twos 96 := by omega
    cases s with
    | zero =>
        have := (room_iff_of_nonneg hx 0).1 hroom
        linarith
    | succ s =>
        simp only [if_neg hsmall, Nat.succ_ne_zero, if_false, Nat.add_sub_cancel]
        exact reads_carried hx hs hbelow habove

/-! ### Behind the point and before it -/

theorem ne_of_digit {c b : Char} (h : c.isDigit = true) (hb : b.isDigit = false) : c ≠ b := by
  rintro rfl
  rw [h] at hb
  cases hb

theorem Figures.all {cs : List Char} (h : Figures cs) : (cs.all fun c => c.isDigit || c == '_') = true := by
  simpa [Figures] using h

/-- Digits behind those of `n` make less than a unit of its last place. -/
theorem leading_figures {cs : List Char} (hcs : Figures cs) {n : Nat}
    (hx : x = (spell n cs : Rat) / (tens (s + (figures cs).length) : Nat)) :
    (n : Rat) ≤ x * (tens s : Nat) ∧ x * (tens s : Nat) < ((n + 1 : Nat) : Rat) := by
  obtain ⟨hspell, hrest⟩ := spell_eq hcs n
  have hscaled : x * (tens s : Nat) = (spell n cs : Rat) / (tens (figures cs).length : Nat) := by
    have := tens_ne_zero s
    rw [hx, tens_add, Nat.cast_mul]
    field_simp
  rw [hscaled, le_div_iff₀ (tens_cast_pos _), div_lt_iff₀ (tens_cast_pos _), hspell]
  constructor
  · exact_mod_cast Nat.le_add_right ..
  · rw [← Nat.cast_mul, Nat.add_one_mul]
    exact_mod_cast Nat.add_lt_add_left hrest _

theorem reads_readFraction {cs : List Char} (hcs : Figures cs) (hm : m < twos 96) (hs : s ≤ 28)
    (hx : x = (spell m cs : Rat) / (tens (s + (figures cs).length) : Nat)) (hroom : Room 0 x) :
    Reads x (readFraction cs true m s) := by
  induction cs generalizing m s with
  | nil =>
      rw [hx]
      exact reads_exact hm hs
  | cons c cs ih =>
      rw [readFraction]
      rcases hcs c List.mem_cons_self with hdigit | rfl
      · obtain ⟨d, hd, hten⟩ := digit?_of_isDigit hdigit
        rw [spell_of_digit hd, figures_of_digit hd, List.length_cons, ← Nat.add_assoc, Nat.add_right_comm] at hx
        simp only [if_neg (ne_of_digit hdigit (b := '_') rfl), hd]
        split_ifs with hfits hall
        · exact ih hcs.tail hfits.2 hfits.1 hx
        · obtain ⟨hlow, hhigh⟩ := leading_figures hcs.tail hx
          rw [tens_succ, Nat.cast_mul, ← mul_assoc] at hlow hhigh
          exact reads_roundedAt hm hs hten (by omega) hlow hhigh hroom
        · exact absurd hcs.tail.all hall
      · rw [spell_underscore, figures_underscore] at hx
        simp only [if_true]
        exact ih hcs.tail hm hs hx

/-- Digits before the point are all taken, as long as the number is small enough. -/
theorem readWhole_append {cs : List Char} (hcs : Figures cs) (h : spell m cs < twos 96) (rest : List Char) :
    readWhole (cs ++ rest) true m = readWhole rest true (spell m cs) := by
  induction cs generalizing m with
  | nil => rfl
  | cons c cs ih =>
      rw [List.cons_append, readWhole]
      rcases hcs c List.mem_cons_self with hdigit | rfl
      · obtain ⟨d, hd, -⟩ := digit?_of_isDigit hdigit
        rw [spell_of_digit hd] at h ⊢
        simp only [if_neg (ne_of_digit hdigit (b := '.') rfl), if_neg (ne_of_digit hdigit (b := '_') rfl), hd]
        rw [if_pos ((le_spell hcs.tail _).trans_lt h)]
        exact ih hcs.tail h
      · rw [spell_underscore] at h ⊢
        exact ih hcs.tail h

/-! ### Numerals -/

namespace Numeral

variable {n : Numeral}

/-- Whether a digit was seen before makes no difference to a numeral that begins with one. -/
theorem readWhole_of_begins (h : n.Begins) :
    readWhole (n.whole ++ n.tail) false 0 = readWhole (n.whole ++ n.tail) true 0 := by
  obtain ⟨c, cs, hbody, hdigit⟩ := h
  have hpoint := ne_of_digit hdigit (b := '.') rfl
  have hgap := ne_of_digit hdigit (b := '_') rfl
  unfold body at hbody
  unfold tail
  cases hwhole : n.whole with
  | cons c' whole =>
      rw [hwhole] at hbody
      obtain rfl : c' = c := (List.cons.inj hbody).1
      simp only [List.cons_append, readWhole, if_neg hpoint, if_neg hgap]
  | nil =>
      cases hfraction : n.fraction with
      | none => simp [hwhole, hfraction] at hbody
      | some fraction =>
          obtain rfl : fraction = c :: cs := by simpa [hwhole, hfraction] using hbody
          simp only [List.nil_append, readWhole, if_true, readFraction, if_neg hgap]

theorem figures_body (n : Numeral) : Figures n.body := by
  intro c hc
  rcases List.mem_append.1 hc with hwhole | hfraction
  · exact n.whole_figures c hwhole
  · exact n.fraction_figures c hfraction

/-- A numeral that does not begin with a digit has none, or has an underscore before it. -/
theorem body_of_not_begins (h : ¬ n.Begins) : n.body = [] ∨ ∃ cs, n.body = '_' :: cs := by
  cases hbody : n.body with
  | nil => exact Or.inl rfl
  | cons c cs =>
      rcases n.figures_body c (by simp [hbody]) with hdigit | rfl
      · exact absurd ⟨c, cs, hbody, hdigit⟩ h
      · exact Or.inr ⟨cs, rfl⟩

theorem readWhole_of_not_begins (h : ¬ n.Begins) : readWhole (n.whole ++ n.tail) false 0 = none := by
  have hbody := body_of_not_begins h
  unfold body at hbody
  unfold tail
  cases hwhole : n.whole with
  | cons c whole =>
      obtain rfl : c = '_' := by simpa [hwhole] using hbody
      simp [readWhole]
  | nil =>
      cases hfraction : n.fraction with
      | none => simp [readWhole]
      | some fraction =>
          rcases hbody with hnone | ⟨cs, hgap⟩
          · obtain rfl : fraction = [] := by simpa [hwhole, hfraction] using hnone
            simp [readWhole, readFraction]
          · obtain rfl : fraction = '_' :: cs := by simpa [hwhole, hfraction] using hgap
            simp [readWhole, readFraction]

/-- The digits of a numeral are read as its magnitude. -/
theorem reads_magnitude (h : Room 0 n.magnitude) : Reads n.magnitude (readWhole (n.whole ++ n.tail) true 0) := by
  have hwhole : spell 0 n.whole < twos 96 := by
    rw [room_iff_of_nonneg magnitude_nonneg, tens_zero, Nat.cast_one, mul_one] at h
    have hlt : (spell 0 n.whole : Rat) < (twos 96 : Nat) := by linarith [n.whole_le]
    exact_mod_cast hlt
  have hfigures := n.fraction_figures
  have hmagnitude : n.magnitude = (spell (spell 0 n.whole) (n.fraction.getD []) : Rat) /
      (tens (0 + (figures (n.fraction.getD [])).length) : Nat) := by
    rw [magnitude, body, spell_append, Nat.zero_add]
  rw [readWhole_append n.whole_figures hwhole]
  unfold tail
  cases hfraction : n.fraction with
  | none =>
      rw [hfraction] at hmagnitude
      rw [hmagnitude]
      exact reads_exact hwhole (Nat.zero_le _)
  | some cs =>
      rw [hfraction] at hmagnitude hfigures
      simp only [readWhole, if_true]
      exact reads_readFraction hfigures hwhole (Nat.zero_le _) hmagnitude h

/-! ### Signs and exponents -/

theorem mem_unsigned {c : Char} (h : c ∈ n.whole ++ n.tail) : c.isDigit = true ∨ c = '_' ∨ c = '.' := by
  have hfigures := n.fraction_figures
  rw [tail] at h
  rcases List.mem_append.1 h with hwhole | htail
  · exact (n.whole_figures c hwhole).imp_right Or.inl
  · cases hfraction : n.fraction with
    | none => simp [hfraction] at htail
    | some cs =>
        rw [hfraction] at hfigures
        rcases List.mem_cons.1 (by simpa [hfraction] using htail) with rfl | hmem
        · exact Or.inr (Or.inr rfl)
        · exact (hfigures c hmem).imp_right Or.inl

theorem mem_chars {c : Char} (h : c ∈ n.chars) :
    c.isDigit = true ∨ c = '_' ∨ c = '.' ∨ c = '+' ∨ c = '-' := by
  rcases List.mem_append.1 h with hsign | hrest
  · cases hn : n.sign <;> rw [hn] at hsign <;> simp_all [Sign.chars]
  · rcases mem_unsigned hrest with hdigit | rfl | rfl
    · exact Or.inl hdigit
    · exact Or.inr (Or.inl rfl)
    · exact Or.inr (Or.inr (Or.inl rfl))

/-- The characters behind the sign are no signs themselves. -/
theorem splitSign_unsigned (n : Numeral) : splitSign (n.whole ++ n.tail) = (false, n.whole ++ n.tail) := by
  have hall : ∀ c ∈ n.whole ++ n.tail, c ≠ '-' ∧ c ≠ '+' := by
    intro c hc
    rcases mem_unsigned hc with hdigit | rfl | rfl
    · exact ⟨ne_of_digit hdigit rfl, ne_of_digit hdigit rfl⟩
    · decide
    · decide
  unfold splitSign
  split
  · rename_i cs heq
    exact absurd rfl (hall '-' (by simp [heq])).1
  · rename_i cs heq
    exact absurd rfl (hall '+' (by simp [heq])).2
  · rfl

theorem splitSign_chars (n : Numeral) :
    splitSign n.chars = (decide (n.sign = .minus), n.whole ++ n.tail) := by
  rw [chars]
  cases n.sign with
  | none => exact n.splitSign_unsigned
  | plus => rfl
  | minus => rfl

/-- There is no mark of an exponent, so there is only the plain form. -/
theorem ofChars_chars (n : Numeral) : ofChars? n.chars = readPlain n.chars := by
  have hscientific : readScientific n.chars = none := by
    rw [readScientific]
    split
    · rename_i number exponent hdivide
      obtain ⟨mark, hmark, hchars⟩ := Text.eq_of_divide hdivide
      rcases mem_chars (n := n) (c := mark) (by simp [hchars]) with hdigit | rfl | rfl | rfl | rfl
      · simp [ne_of_digit hdigit (b := 'e') rfl, ne_of_digit hdigit (b := 'E') rfl] at hmark
      all_goals cases hmark
    · rfl
  rw [ofChars?, hscientific]
  cases readPlain n.chars <;> rfl

/-! ### What is read -/

/-- **A numeral is read as its number, rounded half away from zero to the room there is.** -/
theorem ofChars_rounds (h : Room 0 n.value) (hbegins : n.Begins) :
    ∃ d, ofChars? n.chars = some d ∧ RoundsAway (roomiest 28 n.value) n.value d.value := by
  have hroom : Room 0 n.magnitude := by rwa [← abs_value, Room, abs_abs]
  obtain ⟨m, s, hread, hm, hs, hrounds⟩ := reads_magnitude hroom
  rw [← readWhole_of_begins hbegins] at hread
  obtain ⟨d, hd, hvalue⟩ := exists_ofParts (decide (n.sign = .minus)) hm hs
  refine ⟨d, ?_, ?_⟩
  · simp only [ofChars_chars, readPlain, splitSign_chars, hread]
    exact hd
  · rw [hvalue, value]
    by_cases hminus : n.sign = .minus
    · rw [if_pos hminus, if_pos (decide_eq_true hminus), roomiest_neg]
      exact hrounds.neg
    · rw [if_neg hminus, if_neg (by simpa using hminus)]
      exact hrounds

theorem ofChars_eq_none (h : ¬ n.Begins) : ofChars? n.chars = none := by
  simp only [ofChars_chars, readPlain, splitSign_chars, readWhole_of_not_begins h]

end Numeral

end Daybook.Decimal
