import Daybook.Decimal.Text
import Daybook.Proofs.Decimal.Room

/-!
Plain numerals: an optional sign, digits, at most one point, and underscores that count for nothing. A
numeral may have any number of digits, so it stands for numbers that no decimal has.
-/

namespace Daybook.Decimal

/-! ### Digits -/

/-- Digits and underscores. -/
def Figures (cs : List Char) : Prop :=
  ∀ c ∈ cs, c.isDigit = true ∨ c = '_'

instance (cs : List Char) : Decidable (Figures cs) :=
  List.decidableBAll (fun c : Char => c.isDigit = true ∨ c = '_') cs

/-- The values of the digits; underscores have none. -/
def figures (cs : List Char) : List Nat :=
  cs.filterMap Text.digit?

/-- The number that is spelled when the digits are written behind those of `m`. -/
def spell (m : Nat) (cs : List Char) : Nat :=
  (figures cs).foldl (fun n d => n * 10 + d) m

theorem digit?_of_isDigit {c : Char} (h : c.isDigit = true) : ∃ d, Text.digit? c = some d ∧ d < 10 := by
  refine ⟨c.toNat - '0'.toNat, if_pos h, ?_⟩
  have hrange : c.toNat ≤ 57 := by
    simp only [Char.isDigit, Bool.and_eq_true, decide_eq_true_eq] at h
    exact h.2
  have hzero : '0'.toNat = 48 := rfl
  omega

theorem digit?_underscore : Text.digit? '_' = none :=
  rfl

theorem figures_of_digit {c : Char} {d : Nat} (h : Text.digit? c = some d) (cs : List Char) :
    figures (c :: cs) = d :: figures cs :=
  List.filterMap_cons_some h

theorem figures_underscore (cs : List Char) : figures ('_' :: cs) = figures cs :=
  List.filterMap_cons_none digit?_underscore

@[simp]
theorem spell_nil (m : Nat) : spell m [] = m :=
  rfl

theorem spell_of_digit {c : Char} {d : Nat} (h : Text.digit? c = some d) (m : Nat) (cs : List Char) :
    spell m (c :: cs) = spell (m * 10 + d) cs := by
  rw [spell, figures_of_digit h]
  rfl

theorem spell_underscore (m : Nat) (cs : List Char) : spell m ('_' :: cs) = spell m cs := by
  rw [spell, figures_underscore]
  rfl

theorem spell_append (m : Nat) (cs cs' : List Char) : spell m (cs ++ cs') = spell (spell m cs) cs' := by
  rw [spell, figures, List.filterMap_append, List.foldl_append]
  rfl

theorem Figures.tail {c : Char} {cs : List Char} (h : Figures (c :: cs)) : Figures cs :=
  fun b hb => h b (List.mem_cons_of_mem c hb)

/-- Digits are written behind those of `m` by moving these to the left. -/
theorem spell_eq {cs : List Char} (h : Figures cs) (m : Nat) :
    spell m cs = m * tens (figures cs).length + spell 0 cs ∧ spell 0 cs < tens (figures cs).length := by
  induction cs generalizing m with
  | nil => exact ⟨by simp [figures, tens_zero], by decide⟩
  | cons c cs ih =>
      rcases h c List.mem_cons_self with hdigit | rfl
      · obtain ⟨d, hd, hsmall⟩ := digit?_of_isDigit hdigit
        obtain ⟨hm, hlt⟩ := ih h.tail (m * 10 + d)
        obtain ⟨hzero, -⟩ := ih h.tail (0 * 10 + d)
        rw [spell_of_digit hd, spell_of_digit hd, figures_of_digit hd, List.length_cons, tens_succ, hm, hzero]
        generalize tens (figures cs).length = unit at *
        have hle : d * unit ≤ 9 * unit := Nat.mul_le_mul_right unit (by omega)
        refine ⟨by ring, ?_⟩
        rw [Nat.zero_mul, Nat.zero_add]
        omega
      · rw [spell_underscore, spell_underscore, figures_underscore]
        exact ih h.tail m

theorem mul_le_spell {cs : List Char} (h : Figures cs) (m : Nat) :
    m * tens (figures cs).length ≤ spell m cs := by
  rw [(spell_eq h m).1]
  exact Nat.le_add_right ..

theorem le_spell {cs : List Char} (h : Figures cs) (m : Nat) : m ≤ spell m cs :=
  (Nat.le_mul_of_pos_right m (tens_pos _)).trans (mul_le_spell h m)

/-! ### Numerals -/

inductive Sign where
  | none | plus | minus
deriving DecidableEq

def Sign.chars : Sign → List Char
  | .none => []
  | .plus => ['+']
  | .minus => ['-']

/-- What is written of a number: the digits before the point, and those behind it if there is a point. -/
structure Numeral where
  sign : Sign
  whole : List Char
  fraction : Option (List Char)
  whole_figures : Figures whole
  fraction_figures : Figures (fraction.getD [])

namespace Numeral

variable (n : Numeral)

/-- The point and what follows it. -/
def tail : List Char :=
  match n.fraction with
  | none => []
  | some cs => '.' :: cs

def chars : List Char :=
  n.sign.chars ++ (n.whole ++ n.tail)

/-- Digits and underscores without the point. -/
def body : List Char :=
  n.whole ++ n.fraction.getD []

/-- A digit comes before all underscores. -/
def Begins : Prop :=
  ∃ c cs, n.body = c :: cs ∧ c.isDigit = true

/-- The number without its sign. -/
def magnitude : Rat :=
  (spell 0 n.body : Rat) / (tens (figures (n.fraction.getD [])).length : Nat)

/-- The number that the numeral stands for. -/
def value : Rat :=
  if n.sign = .minus then -n.magnitude else n.magnitude

variable {n}

theorem magnitude_nonneg : 0 ≤ n.magnitude :=
  div_nonneg (Nat.cast_nonneg _) (Nat.cast_nonneg _)

theorem abs_value : |n.value| = n.magnitude := by
  unfold value
  split
  · rw [abs_neg, abs_of_nonneg magnitude_nonneg]
  · exact abs_of_nonneg magnitude_nonneg

/-- The digits before the point count at least as much as they do alone. -/
theorem whole_le : (spell 0 n.whole : Rat) ≤ n.magnitude := by
  rw [magnitude, le_div_iff₀ (tens_cast_pos _), body, spell_append]
  exact_mod_cast mul_le_spell n.fraction_figures (spell 0 n.whole)

end Numeral

end Daybook.Decimal
