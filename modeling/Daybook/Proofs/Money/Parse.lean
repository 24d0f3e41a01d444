import Daybook.Proofs.Decimal.Reading
import Daybook.Proofs.Money.Arithmetic
import Daybook.Proofs.Money.Rounding
import Daybook.Proofs.Text.Padded

/-!
Amounts that are read from texts. A text is rounded twice, first to the places that a decimal has room for
and then to four (`Money.parse_numeral`). That is one rounding for every number that a decimal has, and for
all others that are not just below the middle of two amounts; those go up where they should go down
(`Money.parse_nearlyHalf`).
-/

namespace Daybook

namespace Decimal.Numeral

variable {n : Numeral}

/-- The text is the numeral with blanks around it. -/
def Shows (n : Numeral) (text : String) : Prop :=
  ∃ before after, text.toList = before ++ n.chars ++ after ∧
    (∀ c ∈ before, Text.isBlank c = true) ∧ ∀ c ∈ after, Text.isBlank c = true

theorem trim_of_shows {text : String} (h : n.Shows text) : (Text.trim text).toList = n.chars := by
  obtain ⟨before, after, htext, hbefore, hafter⟩ := h
  rw [Text.toList_trim, htext]
  refine Text.trimChars_between hbefore (fun c hc => ?_) hafter
  rcases mem_chars hc with hdigit | rfl | rfl | rfl | rfl
  · exact Text.isBlank_of_isDigit hdigit
  all_goals decide

end Decimal.Numeral

namespace Money

/-- The middle of two neighbouring amounts, `j` units from zero and one more. -/
def middle (j : Nat) : Rat :=
  (2 * j + 1) / (2 * (tens 4 : Nat))

/-- At a distance of at most half a unit of the place below the middle of two amounts. -/
def BelowMiddle (places : Nat) (x : Rat) : Prop :=
  ∃ j, |x| < middle j ∧ middle j ≤ |x| + 1 / (2 * (tens places : Nat))

section

variable {places : Nat} {x y z : Rat}

theorem middle_le {j : Nat} : middle j ≤ x ↔ 2 * (j : Rat) + 1 ≤ 2 * (x * (tens 4 : Nat)) := by
  have hunit := Decimal.tens_cast_pos 4
  rw [middle, div_le_iff₀ (by linarith)]
  constructor <;> intro h <;> linarith

theorem middle_mono {i j : Nat} (h : i ≤ j) : middle i ≤ middle j := by
  have hcast : (i : Rat) ≤ j := by exact_mod_cast h
  have hunit := Decimal.tens_cast_pos 4
  exact div_le_div_of_nonneg_right (by linarith) (by linarith)

/-- From zero upwards rounding counts the middles that are not above the number. -/
theorem roundsAway_iff_middle (hx : 0 ≤ x) :
    RoundsAway 4 x y ↔
      ∃ n : Nat, y = (n : Rat) / (tens 4 : Nat) ∧ (∀ j < n, middle j ≤ x) ∧ x < middle n := by
  rw [RoundsAway.iff_of_nonneg hx]
  constructor
  · rintro ⟨n, hy, hlow, hhigh⟩
    have hcount : 0 ≤ x * (tens 4 : Nat) := mul_nonneg hx (Nat.cast_nonneg _)
    have hn : 0 ≤ n := by exact_mod_cast RoundsAway.units_nonneg hcount hhigh
    obtain ⟨n, rfl⟩ := Int.eq_ofNat_of_zero_le hn
    rw [Int.cast_natCast] at hy hlow hhigh
    refine ⟨n, hy, fun j hj => middle_le.2 ?_, not_le.1 fun hle => ?_⟩
    · have : (j : Rat) + 1 ≤ n := by exact_mod_cast hj
      linarith
    · have := middle_le.1 hle
      linarith
  · rintro ⟨n, hy, hlow, hhigh⟩
    refine ⟨n, by rw [hy, Int.cast_natCast], ?_, ?_⟩ <;> rw [Int.cast_natCast]
    · cases n with
      | zero =>
          have : 0 ≤ x * (tens 4 : Nat) := mul_nonneg hx (Nat.cast_nonneg _)
          rw [Nat.cast_zero]
          linarith
      | succ n =>
          have := middle_le.1 (hlow n (Nat.lt_succ_self n))
          push_cast
          linarith
    · by_contra hge
      exact absurd (middle_le.2 (not_lt.1 hge)) (not_le.2 hhigh)

/-- Rounding at the fifth place or later reaches a middle exactly from half a unit below it on. -/
theorem middle_le_iff (hplaces : 5 ≤ places) (h : RoundsAway places x z) (j : Nat) :
    middle j ≤ z ↔ middle j ≤ x + 1 / (2 * (tens places : Nat)) := by
  have hsplit : tens places = tens 4 * 10 * tens (places - 5) := by
    rw [← tens_succ, ← tens_add, Nat.add_sub_of_le hplaces]
  have hfour := Decimal.tens_cast_pos 4
  have hrest := Decimal.tens_cast_pos (places - 5)
  have hpos : 0 < ((2 * j + 1) * 5 * tens (places - 5) : Int) := by
    have := tens_pos (places - 5)
    positivity
  -- A middle is a whole number of units of such a place.
  have hmiddle : middle j = (((2 * j + 1) * 5 * tens (places - 5) : Int) : Rat) / (tens places : Nat) := by
    rw [middle, hsplit]
    push_cast
    field_simp
    ring
  have hunit := Decimal.tens_cast_pos places
  rw [hmiddle, h.le_iff hpos, ← sub_le_iff_le_add]
  have hhalf : ∀ n : Rat, (2 * n - 1) / (2 * (tens places : Nat)) =
      n / (tens places : Nat) - 1 / (2 * (tens places : Nat)) := by
    intro n
    field_simp
  rw [hhalf]

/-- Rounding in two steps is rounding in one, except just below a middle. -/
theorem rounds_once_iff_of_nonneg (hplaces : 5 ≤ places) (hx : 0 ≤ x) (hfirst : RoundsAway places x z)
    (hthen : RoundsAway 4 z y) : RoundsAway 4 x y ↔ ¬ BelowMiddle places x := by
  have hz := hfirst.nonneg hx
  have hreaches := middle_le_iff hplaces hfirst
  obtain ⟨n, hy, hlow, hhigh⟩ := (roundsAway_iff_middle hz).1 hthen
  have hunit : (0 : Rat) < 1 / (2 * (tens places : Nat)) := by
    have := Decimal.tens_cast_pos places
    positivity
  constructor
  · rintro honce ⟨j, hlt, hle⟩
    rw [abs_of_nonneg hx] at hlt hle
    obtain ⟨n', hy', hlow', -⟩ := (roundsAway_iff_middle hx).1 honce
    have hsame : n' = n := by
      rw [hy, div_left_inj' (Decimal.tens_ne_zero 4)] at hy'
      exact_mod_cast hy'.symm
    subst hsame
    rcases Nat.lt_or_ge j n' with hj | hj
    · exact absurd (hlow' j hj) (not_le.2 hlt)
    · have hz' := (hreaches j).2 hle
      exact absurd ((middle_mono hj).trans hz') (not_le.2 hhigh)
  · intro hnot
    refine (roundsAway_iff_middle hx).2 ⟨n, hy, fun j hj => ?_, ?_⟩
    · by_contra hlt
      refine hnot ⟨j, ?_, ?_⟩ <;> rw [abs_of_nonneg hx]
      · exact not_le.1 hlt
      · exact (hreaches j).1 (hlow j hj)
    · by_contra hge
      have hz' := (hreaches n).2 (by linarith)
      exact absurd hz' (not_le.2 hhigh)

/-- Below zero everything is the other way round. -/
theorem rounds_once_iff (hplaces : 5 ≤ places) (hfirst : RoundsAway places x z)
    (hthen : RoundsAway 4 z y) : RoundsAway 4 x y ↔ ¬ BelowMiddle places x := by
  rcases le_total 0 x with hx | hx
  · exact rounds_once_iff_of_nonneg hplaces hx hfirst hthen
  · have hopposite := rounds_once_iff_of_nonneg hplaces (neg_nonneg.2 hx) hfirst.neg hthen.neg
    rwa [RoundsAway.neg_iff, BelowMiddle, abs_neg] at hopposite

end

/-- What an amount is that was read from a text of the number `x`. -/
structure ReadFrom (x : Rat) (c : Currency) (m : Money) : Prop where
  currency_eq : m.currency = c
  twice : ∃ z, RoundsAway (roomiest 28 x) x z ∧ RoundsAway 4 z m.value
  once_iff : RoundsAway 4 x m.value ↔ ¬ BelowMiddle (roomiest 28 x) x
  once_of_decimal : (∃ d : Decimal, d.value = x) → RoundsAway 4 x m.value

/-- Numbers below 10¹⁵ have room for thirteen places. -/
theorem room_thirteen {x : Rat} (h : |x| < 10 ^ 15) : Room 13 x := by
  rw [Room]
  norm_num [tens, twos]
  linarith

/-- A new amount is read from what the decimal was read from. -/
theorem readFrom_new {x : Rat} {d : Decimal} (hsmall : |x| < 10 ^ 15)
    (hd : RoundsAway (roomiest 28 x) x d.value) (c : Currency) : ReadFrom x c (new d c) where
  currency_eq := rfl
  twice := ⟨d.value, hd, roundsAway_new d c⟩
  once_iff := by
    have hplaces : 13 ≤ roomiest 28 x := le_roomiest (by decide) (room_thirteen hsmall)
    exact rounds_once_iff (by omega) hd (roundsAway_new d c)
  once_of_decimal := by
    rintro ⟨d', rfl⟩
    have hexact : RoundsAway (roomiest 28 d'.value) d'.value d'.value := Decimal.nearest_roomiest d'.scale_le
    rw [hexact.unique hd]
    exact roundsAway_new d c

/-- **A text is rounded to the places of a decimal and then to four.** A numeral that begins with a digit is
read, whatever blanks are around it, and no other is. The amount is the number rounded once for every number
that a decimal has, and for any other unless it is just below the middle of two amounts; there it is wrong. -/
theorem parse_numeral (n : Decimal.Numeral) {text : String} (htext : n.Shows text)
    (hsmall : |n.value| < 10 ^ 15) (c : Currency) :
    13 ≤ roomiest 28 n.value ∧
      (n.Begins → ∃ m, parse text c = .ok m ∧ ReadFrom n.value c m) ∧
      (¬ n.Begins → parse text c = .error (.invalidAmount text)) := by
  have hroom := room_thirteen hsmall
  refine ⟨le_roomiest (by decide) hroom, fun hbegins => ?_, fun hnone => ?_⟩
  · obtain ⟨d, hd, hrounds⟩ := Decimal.Numeral.ofChars_rounds (hroom.mono (by decide)) hbegins
    refine ⟨new d c, ?_, readFrom_new hsmall hrounds c⟩
    simp only [parse, Decimal.ofText?, Decimal.Numeral.trim_of_shows htext, hd]
  · simp only [parse, Decimal.ofText?, Decimal.Numeral.trim_of_shows htext,
      Decimal.Numeral.ofChars_eq_none hnone]

/-- Ten and half a unit, below zero. -/
def middleBelowZero : Decimal.Numeral :=
  ⟨.minus, "1_0".toList, some "00005".toList, by decide, by decide⟩

/-- The conditions can be met, by a text in the middle of two amounts with blanks on both sides. -/
theorem parse_numeral_middleBelowZero :
    middleBelowZero.Shows "\t-1_0.00005 " ∧ |middleBelowZero.value| < 10 ^ 15 ∧
      ∃ m, parse "\t-1_0.00005 " .brl = .ok m ∧ ReadFrom middleBelowZero.value .brl m := by
  have hshows : middleBelowZero.Shows "\t-1_0.00005 " :=
    ⟨['\t'], [' '], by decide, List.forall_mem_singleton.2 rfl, List.forall_mem_singleton.2 rfl⟩
  have hsmall : |middleBelowZero.value| < 10 ^ 15 := by decide +kernel
  exact ⟨hshows, hsmall, (parse_numeral _ hshows hsmall .brl).2.1 ⟨'1', "_000005".toList, by decide, rfl⟩⟩

/-- Less than half a unit, by one unit of the last of 29 places. -/
def nearlyHalf : Decimal.Numeral :=
  ⟨.none, "0".toList, some "00004999999999999999999999999".toList, by decide, by decide⟩

/-- **A text below half a unit that is read as a unit.** -/
theorem parse_nearlyHalf :
    nearlyHalf.Shows "0.00004999999999999999999999999" ∧ |nearlyHalf.value| < 10 ^ 15 ∧
      ∃ m, parse "0.00004999999999999999999999999" .brl = .ok m ∧
        ¬ RoundsAway 4 nearlyHalf.value m.value := by
  have hunit : ((1 : Int) : Rat) / (tens 4 : Nat) ≤ smallest.value := by decide +kernel
  have hbelow : nearlyHalf.value < (2 * ((1 : Int) : Rat) - 1) / (2 * (tens 4 : Nat)) := by decide +kernel
  refine ⟨⟨[], [], by decide, List.forall_mem_nil _, List.forall_mem_nil _⟩, by decide +kernel,
    smallest, by decide +kernel, fun honce => ?_⟩
  exact absurd ((honce.le_iff (by decide)).1 hunit) (not_le.2 hbelow)

end Money
end Daybook
