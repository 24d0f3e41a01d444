import Daybook.Proofs.Decimal.Reading
import Daybook.Proofs.Text.Padded

/-!
Decimals that are written and read again. All digits of the mantissa are written, with the point where the
scale puts it, so nothing is left out when they are read (`ofChars_toChars`): mantissa and scale come back
as they were, and so does the sign, unless it is that of zero.
-/

namespace Daybook.Decimal

variable {d : Decimal} {cs : List Char} {m s : Nat}

/-- The same number in the same digits; zero has no sign. -/
def plain (d : Decimal) : Decimal :=
  { d with negative := d.negative && d.mantissa != 0 }

theorem signed_plain (d : Decimal) : d.plain.signed = d.signed := by
  by_cases hzero : d.mantissa = 0 <;> simp [plain, signed, hzero]

theorem value_plain (d : Decimal) : d.plain.value = d.value := by
  rw [value, signed_plain]
  rfl

/-! ### What is written -/

theorem isDigit_of_mem_digits {c : Char} (h : c ∈ d.digits) : c.isDigit = true :=
  Text.isDigit_of_mem_padded h

/-- There is a digit before the point. -/
theorem scale_lt_length_digits (d : Decimal) : d.scale < d.digits.length :=
  Text.le_length_padded

/-- The digits before the point. -/
def whole (d : Decimal) : List Char :=
  d.digits.take (d.digits.length - d.scale)

/-- The digits behind it. -/
def fraction (d : Decimal) : List Char :=
  d.digits.drop (d.digits.length - d.scale)

theorem whole_append_fraction (d : Decimal) : d.whole ++ d.fraction = d.digits :=
  List.take_append_drop ..

theorem length_fraction (d : Decimal) : d.fraction.length = d.scale := by
  have := d.scale_lt_length_digits
  rw [fraction, List.length_drop]
  omega

theorem isDigit_of_mem_whole {c : Char} (h : c ∈ d.whole) : c.isDigit = true :=
  isDigit_of_mem_digits (List.mem_of_mem_take h)

theorem isDigit_of_mem_fraction {c : Char} (h : c ∈ d.fraction) : c.isDigit = true :=
  isDigit_of_mem_digits (List.mem_of_mem_drop h)

theorem figures_fraction (d : Decimal) : Figures d.fraction :=
  fun _ hc => Or.inl (isDigit_of_mem_fraction hc)

/-- What is written of a decimal is a numeral. -/
def written (d : Decimal) : Numeral where
  sign := if d.negative then .minus else .none
  whole := d.whole
  fraction := if d.scale = 0 then none else some d.fraction
  whole_figures := fun _ hc => Or.inl (isDigit_of_mem_whole hc)
  fraction_figures := by
    intro c hc
    split_ifs at hc
    · cases hc
    · exact d.figures_fraction c hc

theorem toChars_eq (d : Decimal) : d.toChars = d.written.chars := by
  have hsign : (if d.negative then ['-'] else []) = d.written.sign.chars := by
    cases hnegative : d.negative <;> simp [written, hnegative, Sign.chars]
  have htail : (if d.scale = 0 then [] else '.' :: d.fraction) = d.written.tail := by
    by_cases hscale : d.scale = 0 <;> simp [written, Numeral.tail, hscale]
  rw [Numeral.chars, ← List.append_assoc, ← hsign, ← htail]
  rfl

theorem whole_ne_nil (d : Decimal) : d.whole ≠ [] := by
  have := d.scale_lt_length_digits
  rw [← List.length_pos_iff, whole, List.length_take]
  omega

theorem written_begins (d : Decimal) : d.written.Begins := by
  obtain ⟨c, cs, hwhole⟩ := List.exists_cons_of_ne_nil d.whole_ne_nil
  refine ⟨c, cs ++ d.written.fraction.getD [], ?_, isDigit_of_mem_whole (hwhole ▸ List.mem_cons_self)⟩
  rw [Numeral.body, ← List.cons_append, ← hwhole]
  rfl

/-! ### Reading it -/

theorem digit?_digitChar {k : Nat} (h : k < 10) : Text.digit? k.digitChar = some k := by
  have hdigit : k.digitChar.isDigit = true := by
    rw [Nat.isDigit_digitChar]
    exact decide_eq_true h
  rw [Text.digit?, if_pos hdigit, Nat.toNat_digitChar_of_lt_ten h]
  exact congrArg some (Nat.add_sub_cancel_left ..)

/-- The digits spell the mantissa. -/
theorem spell_digits (d : Decimal) : spell 0 d.digits = d.mantissa := by
  rw [spell, figures, List.foldl_filterMap]
  refine Text.foldl_padded (fun n => n) (by decide) fun m k hk => ?_
  rw [digit?_digitChar hk]

/-- Digits behind the point are all taken, as long as there is room for them. -/
theorem readFraction_of_digits (h : ∀ c ∈ cs, c.isDigit = true) (hm : spell m cs < twos 96)
    (hs : s + cs.length ≤ 28) : readFraction cs true m s = some (spell m cs, s + cs.length) := by
  induction cs generalizing m s with
  | nil => rfl
  | cons c cs ih =>
      obtain ⟨hc, hcs⟩ := List.forall_mem_cons.1 h
      obtain ⟨k, hk, -⟩ := digit?_of_isDigit hc
      rw [List.length_cons] at hs
      rw [spell_of_digit hk] at hm ⊢
      have hroom : m * 10 + k < twos 96 := (le_spell (fun b hb => Or.inl (hcs b hb)) _).trans_lt hm
      rw [readFraction, if_neg (ne_of_digit hc (b := '_') rfl), hk]
      simp only [if_pos (show s < 28 ∧ m * 10 + k < twos 96 from ⟨by omega, hroom⟩)]
      rw [ih hcs hm (by omega), List.length_cons, Nat.add_right_comm, Nat.add_assoc]

/-- All digits are taken. -/
theorem readWhole_written (d : Decimal) :
    readWhole (d.written.whole ++ d.written.tail) true 0 = some (d.mantissa, d.scale) := by
  have hmantissa : spell (spell 0 d.whole) d.fraction = d.mantissa := by
    rw [← spell_append, whole_append_fraction, spell_digits]
  have hroom : spell 0 d.whole < twos 96 := by
    calc
      spell 0 d.whole ≤ spell (spell 0 d.whole) d.fraction := le_spell d.figures_fraction _
      _ = d.mantissa := hmantissa
      _ < twos 96 := d.mantissa_lt
  rw [readWhole_append d.written.whole_figures hroom]
  by_cases hscale : d.scale = 0
  · have hnone : d.fraction = [] := List.length_eq_zero_iff.1 (d.length_fraction.trans hscale)
    have htail : d.written.tail = [] := by simp [Numeral.tail, written, hscale]
    rw [hnone] at hmantissa
    rw [htail, hscale, ← hmantissa]
    rfl
  · have htail : d.written.tail = '.' :: d.fraction := by simp [Numeral.tail, written, hscale]
    rw [htail, readWhole, if_pos rfl]
    have hread := readFraction_of_digits (m := spell 0 d.whole) (s := 0)
      (fun _ hc => isDigit_of_mem_fraction (d := d) hc) (hmantissa ▸ d.mantissa_lt)
      (by rw [length_fraction, Nat.zero_add]; exact d.scale_le)
    rw [hmantissa, length_fraction, Nat.zero_add] at hread
    exact hread

/-- **A decimal that is written is read as it was**, except that zero loses its sign. -/
theorem ofChars_toChars (d : Decimal) : ofChars? d.toChars = some d.plain := by
  have hsign : decide (d.written.sign = .minus) = d.negative := by
    cases hnegative : d.negative <;> simp [written, hnegative]
  rw [toChars_eq, Numeral.ofChars_chars]
  simp only [readPlain, Numeral.splitSign_chars, Numeral.readWhole_of_begins d.written_begins,
    readWhole_written, hsign]
  exact dif_pos ⟨d.mantissa_lt, d.scale_le⟩

theorem ofText_toText (d : Decimal) : ofText? d.toText = some d.plain := by
  rw [ofText?, toText, String.toList_ofList]
  exact d.ofChars_toChars

end Daybook.Decimal
