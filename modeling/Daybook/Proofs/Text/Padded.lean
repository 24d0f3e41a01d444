import Daybook.Text.Blank
import Daybook.Text.Natural
import Mathlib.Algebra.Group.Nat.Defs
import Mathlib.Tactic.Common

/-!
Numbers in digits, with zeros in front. A reader that takes one digit at a time and moves those before it
to the left gets back the number that was written (`foldl_padded`), in every base that has digits.
-/

namespace Daybook.Text

variable {α : Type} {base width n : Nat} {c : Char}

theorem exists_of_mem_toDigits (hbase : 1 < base) (h : c ∈ Nat.toDigits base n) :
    ∃ d < base, c = d.digitChar := by
  induction n using Nat.strongRecOn with
  | ind n ih =>
      rw [Nat.toDigits_eq_if hbase] at h
      split_ifs at h with hsmall
      · exact ⟨n, hsmall, List.mem_singleton.1 h⟩
      · rcases List.mem_append.1 h with hfront | hlast
        · exact ih (n / base) (Nat.div_lt_self (by omega) hbase) hfront
        · exact ⟨n % base, Nat.mod_lt n (by omega), List.mem_singleton.1 hlast⟩

/-- What is written are digits of the base. -/
theorem exists_of_mem_padded (hbase : 1 < base) (h : c ∈ padded base width n) :
    ∃ d < base, c = d.digitChar := by
  rcases List.mem_append.1 h with hzero | hdigit
  · exact ⟨0, by omega, List.eq_of_mem_replicate hzero⟩
  · exact exists_of_mem_toDigits hbase hdigit

theorem isDigit_of_mem_padded (h : c ∈ padded 10 width n) : c.isDigit = true := by
  obtain ⟨d, hd, rfl⟩ := exists_of_mem_padded (by decide) h
  rw [Nat.isDigit_digitChar]
  exact decide_eq_true hd

theorem isBlank_of_isDigit (h : c.isDigit = true) : isBlank c = false := by
  simp only [Char.isDigit, Bool.and_eq_true, decide_eq_true_eq] at h
  have hlow : 48 ≤ c.toNat := h.1
  have hhigh : c.toNat ≤ 57 := h.2
  simp only [isBlank, Bool.or_eq_false_iff, Bool.and_eq_false_iff, decide_eq_false_iff_not,
    beq_eq_false_iff_ne]
  omega

theorem le_length_padded : width ≤ (padded base width n).length := by
  rw [padded, List.length_append, List.length_replicate]
  omega

theorem length_padded (hbase : 1 < base) (hwidth : 0 < width) (h : n < base ^ width) :
    (padded base width n).length = width := by
  have hfits := (Nat.length_toDigits_le_iff hbase hwidth).2 h
  rw [padded, List.length_append, List.length_replicate]
  omega

/-- **What is written of a number is read as that number**, digit by digit from the left. -/
theorem foldl_padded {step : α → Char → α} (read : Nat → α) (hbase : 1 < base)
    (hstep : ∀ m, ∀ d < base, step (read m) d.digitChar = read (m * base + d)) :
    (padded base width n).foldl step (read 0) = read n := by
  have hzeros : ∀ k, (List.replicate k '0').foldl step (read 0) = read 0 := by
    intro k
    induction k with
    | zero => rfl
    | succ k ih =>
        have hzero : step (read 0) '0' = read 0 := by
          have hnone := hstep 0 0 (by omega)
          rwa [Nat.zero_mul] at hnone
        rw [List.replicate_succ, List.foldl_cons, hzero, ih]
  rw [padded, List.foldl_append, hzeros]
  induction n using Nat.strongRecOn with
  | ind n ih =>
      rw [Nat.toDigits_eq_if hbase]
      split_ifs with hsmall
      · rw [List.foldl_cons, List.foldl_nil, hstep 0 n hsmall, Nat.zero_mul, Nat.zero_add]
      · rw [List.foldl_append, ih (n / base) (Nat.div_lt_self (by omega) hbase), List.foldl_cons,
          List.foldl_nil, hstep _ _ (Nat.mod_lt n (by omega)), Nat.div_add_mod']

theorem foldl_decimal (width n : Nat) :
    (padded 10 width n).foldl (fun n c => n * 10 + (c.toNat - '0'.toNat)) 0 = n := by
  refine foldl_padded (fun n => n) (by decide) fun m d hd => ?_
  rw [Nat.toNat_digitChar_of_lt_ten hd]
  exact congrArg (m * 10 + ·) (Nat.add_sub_cancel_left ..)

/-- Different numbers are written in different digits. -/
theorem padded_injective (width : Nat) : Function.Injective (padded 10 width) :=
  Function.LeftInverse.injective (foldl_decimal width)

end Daybook.Text
