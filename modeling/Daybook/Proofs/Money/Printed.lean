import Daybook.Proofs.Decimal.Written
import Daybook.Proofs.Money.Arithmetic
import Daybook.Proofs.Money.Canonical

/-!
What is printed of amounts that are the same. There is one form for each amount (`Money.eq_of_same`), but two
for nothing, with a sign and without one, and they are printed differently. The sign comes from zero that is
turned round, or is read from a text whose digits are all moved away by its exponent (`Decimal.Vanishes`);
without these no sequence of operations puts a sign on zero (`Money.Made.plain`).
-/

namespace Daybook

namespace Decimal

variable {d d' : Decimal} {cs : List Char} {m s x : Nat} {negative : Bool}

/-- The sign can be seen in the text. -/
theorem negative_of_toText (h : d.toText = d'.toText) : d.negative = d'.negative := by
  have hsign : ∀ d : Decimal, (splitSign d.toText.toList).1 = d.negative := by
    intro d
    rw [toText, String.toList_ofList, toChars_eq, Numeral.splitSign_chars]
    cases hnegative : d.negative <;> simp [written, hnegative]
  rw [← hsign d, h, hsign d']

/-! ### Reading -/

theorem plain_ofParts (h : ofParts? negative m s = some d) : d.Plain := by
  rw [ofParts?] at h
  split_ifs at h
  cases h
  intro hzero
  obtain rfl : m = 0 := beq_iff_eq.1 hzero
  simp

theorem plain_readPlain (h : readPlain cs = some d) : d.Plain := by
  simp only [readPlain] at h
  split at h
  · exact plain_ofParts h
  · cases h

theorem plain_shiftUp (hd : d.Plain) (h : d.shiftUp x = some d') : d'.Plain := by
  rw [shiftUp] at h
  split_ifs at h
  · cases h
    exact hd
  · exact plain_ofParts h

/-- Nothing is left of a number that is cut when it is below half a unit of the last place. -/
theorem lt_of_cut {places : Nat} (hcut : places < d.scale) (h : (d.cut places).isZero = true) :
    2 * d.mantissa < tens (d.scale - places) := by
  rw [cut, dif_neg (not_le.2 hcut), isZero, beq_iff_eq] at h
  have hunit := tens_pos (d.scale - places)
  have hparts := Nat.div_add_mod d.mantissa (tens (d.scale - places))
  simp only at h
  split_ifs at h with hup
  rw [h, Nat.mul_zero, Nat.zero_add] at hparts
  omega

/-- The sign is left behind only where all digits are cut. -/
theorem plain_shiftDown (hd : d.Plain) (h : d.shiftDown x = some d') :
    d'.Plain ∨ d.signed < 0 ∧ 2 * d.mantissa < tens (d.scale + x - 28) := by
  rw [shiftDown] at h
  split_ifs at h with _ hroom
  · simp only at h
    split_ifs at h
    cases h
    exact Or.inl hd
  · -- The digits that have no place are cut, and the mantissa may become zero where it was not.
    simp only at h
    split_ifs at h
    cases h
    by_cases hplain : (d.cut (28 - x)).Plain
    · exact Or.inl hplain
    · obtain ⟨hzero, hsign⟩ : (d.cut (28 - x)).isZero = true ∧ (d.cut (28 - x)).negative = true := by
        simpa [Plain] using hplain
      rw [negative_cut] at hsign
      have hmantissa : d.mantissa ≠ 0 := fun hm => by simp [hd (beq_iff_eq.2 hm)] at hsign
      have hbelow := lt_of_cut (show 28 - x < d.scale by omega) hzero
      refine Or.inr ⟨?_, ?_⟩
      · rw [signed, if_pos hsign]
        omega
      · rwa [show d.scale + x - 28 = d.scale - (28 - x) by omega]

/-- The text has a number below zero and an exponent that leaves less than half a unit of the 28th place. -/
def Vanishes (cs : List Char) : Prop :=
  ∃ number mark rest base x, (mark = 'e' ∨ mark = 'E') ∧ cs = number ++ mark :: '-' :: rest ∧
    readPlain number = some base ∧ readExponent rest = some x ∧
    base.signed < 0 ∧ 2 * base.mantissa < tens (base.scale + x - 28)

/-- It takes an exponent. -/
theorem not_vanishes (h : ∀ c ∈ cs, c ≠ 'e' ∧ c ≠ 'E') : ¬ Vanishes cs := by
  rintro ⟨number, mark, rest, -, -, hmark, rfl, -⟩
  obtain ⟨hlower, hupper⟩ := h mark (by simp)
  exact hmark.elim hlower hupper

/-- The sign of zero is read from no other text. -/
theorem plain_ofChars (hcs : ¬ Vanishes cs) (h : ofChars? cs = some d) : d.Plain := by
  rw [ofChars?] at h
  cases hplain : readPlain cs with
  | some d' =>
      rw [hplain] at h
      cases h
      exact plain_readPlain hplain
  | none =>
      rw [hplain] at h
      simp only [readScientific] at h
      split at h
      · rename_i number exponent hdivide
        obtain ⟨base, hbase, hshift⟩ := Option.bind_eq_some_iff.1 h
        split at hshift
        · rename_i rest
          obtain ⟨x, hx, hdown⟩ := Option.bind_eq_some_iff.1 hshift
          refine (plain_shiftDown (plain_readPlain hbase) hdown).resolve_right fun hvanishes => hcs ?_
          obtain ⟨mark, hmark, hchars⟩ := Text.eq_of_divide hdivide
          exact ⟨number, mark, rest, base, x, by simpa using hmark, hchars, hbase, hx, hvanishes⟩
        · obtain ⟨x, -, hup⟩ := Option.bind_eq_some_iff.1 hshift
          exact plain_shiftUp (plain_readPlain hbase) hup
      · cases h

end Decimal

namespace Money

variable {a b m : Money} {c : Currency}

/-! ### Nothing with a sign and without one -/

theorem plain_of_unsigned (h : m.amount.negative = false) : m.amount.Plain :=
  fun _ => h

theorem plain_of_nonzero (h : m.isZero = false) : m.amount.Plain :=
  fun hzero => absurd hzero (by rw [← isZero, h]; decide)

/-- Turned round, an amount with a sign has none. -/
theorem plain_negate_of_signed (h : m.amount.negative = true) : m.negate.amount.Plain :=
  plain_of_unsigned (by simp [negate, Decimal.neg, h])

/-- Amounts that are the same are equal, if zero has the same sign in both. -/
theorem eq_of_same (h : a.same b = true) (hsign : a.isZero = true → a.amount.negative = b.amount.negative) :
    a = b := by
  obtain ⟨hvalue, hcurrency⟩ := (same_iff a b).1 h
  cases hzero : a.isZero with
  | false =>
      have hb : b.isZero = false := by
        rw [← Bool.not_eq_true, ← value_eq_zero_iff, ← hvalue, value_eq_zero_iff, hzero]
        decide
      exact eq_of_value (plain_of_nonzero hzero) (plain_of_nonzero hb) hcurrency hvalue
  | true =>
      cases hnegative : a.amount.negative with
      | false =>
          have hb : b.amount.negative = false := (hsign hzero).symm.trans hnegative
          exact eq_of_value (plain_of_unsigned hnegative) (plain_of_unsigned hb) hcurrency hvalue
      | true =>
          -- Neither zero is plain, but both are when they are turned round.
          have hb : b.amount.negative = true := (hsign hzero).symm.trans hnegative
          have hopposite : a.negate = b.negate :=
            eq_of_value (plain_negate_of_signed hnegative) (plain_negate_of_signed hb) hcurrency
              (by rw [value_negate, value_negate, hvalue])
          rw [← a.negate_negate, hopposite, b.negate_negate]

/-! ### Texts and JSON -/

theorem amount_toText_of_toText (h : a.toText = b.toText) (hcurrency : a.currency = b.currency) :
    a.amount.toText = b.amount.toText := by
  rw [toText, toText, hcurrency] at h
  exact String.append_right_inj _ |>.1 h

theorem amount_toText_of_toJson (h : a.toJson = b.toJson) : a.amount.toText = b.amount.toText := by
  simp only [toJson, Decimal.toJson, Json.object.injEq, List.cons.injEq, Prod.mk.injEq,
    Json.string.injEq] at h
  exact h.1.2

/-! ### Sequences of operations -/

theorem plain_parse {text : String} (htext : ¬ Decimal.Vanishes (Text.trim text).toList)
    (h : parse text c = .ok m) : m.amount.Plain := by
  rw [parse] at h
  cases hread : Decimal.ofText? (Text.trim text) with
  | none =>
      rw [hread] at h
      cases h
  | some d =>
      rw [hread] at h
      cases h
      exact plain_new (Decimal.plain_ofChars htext hread) c

/-- What is made in any sequence of operations in which nothing puts a sign on zero: a decimal that is zero
has none, a text does not lose all its digits to its exponent, and zero is not negated. -/
inductive Made : Money → Prop where
  | new {d : Decimal} (hd : d.Plain) (c : Currency) : Made (new d c)
  | parse {text : String} {c : Currency} {m : Money} (htext : ¬ Decimal.Vanishes (Text.trim text).toList)
      (h : parse text c = .ok m) : Made m
  | zero (c : Currency) : Made (zero c)
  | add {a b m : Money} (ha : Made a) (hb : Made b) (h : a.add b = .ok m) : Made m
  | sub {a b m : Money} (ha : Made a) (hb : Made b) (h : a.sub b = .ok m) : Made m
  | negate {m : Money} (hm : Made m) (h : m.isZero = false) : Made m.negate
  | abs (m : Money) : Made m.abs

/-- No operation puts a sign on zero. -/
theorem Made.plain (h : Made m) : m.amount.Plain := by
  induction h with
  | new hd c => exact plain_new hd c
  | parse htext h => exact plain_parse htext h
  | zero c => exact plain_zero c
  | add ha hb h iha ihb => exact plain_add iha ihb h
  | sub ha hb h iha ihb => exact plain_sub iha ihb h
  | @negate m hm h ih => exact plain_of_nonzero (show m.negate.isZero = false from h)
  | abs m => exact plain_abs m

/-- **Amounts that are the same print the same, unless they are zero and only one has a sign.** In any sequence
of operations in which nothing puts a sign on zero they print the same. -/
theorem prints_alike (a b : Money) (hsame : a.same b = true) :
    (a.toText = b.toText ↔ (a.isZero = true → a.amount.negative = b.amount.negative)) ∧
    (a.toJson = b.toJson ↔ (a.isZero = true → a.amount.negative = b.amount.negative)) ∧
    (Made a → Made b → a.toText = b.toText ∧ a.toJson = b.toJson) := by
  obtain ⟨hvalue, hcurrency⟩ := (same_iff a b).1 hsame
  have hequal : (a.isZero = true → a.amount.negative = b.amount.negative) → a = b := eq_of_same hsame
  refine ⟨⟨fun h _ => ?_, fun hsign => congrArg toText (hequal hsign)⟩,
    ⟨fun h _ => ?_, fun hsign => congrArg toJson (hequal hsign)⟩, fun ha hb => ?_⟩
  · exact Decimal.negative_of_toText (amount_toText_of_toText h hcurrency)
  · exact Decimal.negative_of_toText (amount_toText_of_toJson h)
  · obtain rfl := eq_of_value ha.plain hb.plain hcurrency hvalue
    exact ⟨rfl, rfl⟩

/-- The conditions can be met, by a zero that was written with a sign and by one that is left of an amount. -/
theorem prints_alike_nothing :
    ∃ a b : Money, parse "-0" .brl = .ok a ∧ smallest.sub smallest = .ok b ∧ a.same b = true ∧
      a.toText = b.toText ∧ a.toJson = b.toJson := by
  have hread : parse "-0" .brl = .ok (zero .brl) := by decide +kernel
  have hleft : smallest.sub smallest = .ok (zero .brl) := by decide +kernel
  have htext : ¬ Decimal.Vanishes (Text.trim "-0").toList := by
    rw [show (Text.trim "-0").toList = ['-', '0'] by decide +kernel]
    exact Decimal.not_vanishes (by simp)
  have hsmallest : Made smallest :=
    .new (Decimal.plain_ofParts (Option.some_get (by decide)).symm) .brl
  have hsame : (zero .brl).same (zero .brl) = true := same_refl _
  exact ⟨_, _, hread, hleft, hsame,
    (prints_alike _ _ hsame).2.2 (.parse htext hread) (.sub hsmallest hsmallest hleft)⟩

/-- **Zero and zero turned round are the same, and print differently.** -/
theorem zeros_differ :
    (zero .brl).same (zero .brl).negate = true ∧ (zero .brl).toText = "BRL 0.0000" ∧
      (zero .brl).negate.toText = "BRL -0.0000" ∧ (zero .brl).toJson ≠ (zero .brl).negate.toJson := by
  refine ⟨by decide +kernel, by decide +kernel, by decide +kernel, fun h => ?_⟩
  exact absurd (Decimal.negative_of_toText (amount_toText_of_toJson h)) (by decide +kernel)

end Money

end Daybook
