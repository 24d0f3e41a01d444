import Daybook.Text.Blank
import Mathlib.Data.List.TakeWhile
import Mathlib.Tactic.Common

/-!
Trimmed texts. A text is what is left of it when it is trimmed, between white space, and it is the only part
of the text that has white space around it and none at its ends (`Text.encloses_iff`). So white space around
a text makes no difference (`Text.trim_padded`).
-/

namespace Daybook.Text

/-- The character has the Unicode property White_Space. -/
def WhiteSpace (c : Char) : Prop :=
  c.toNat ∈ [0x9, 0xA, 0xB, 0xC, 0xD, 0x20, 0x85, 0xA0, 0x1680, 0x2000, 0x2001, 0x2002, 0x2003, 0x2004,
    0x2005, 0x2006, 0x2007, 0x2008, 0x2009, 0x200A, 0x2028, 0x2029, 0x202F, 0x205F, 0x3000]

instance (c : Char) : Decidable (WhiteSpace c) :=
  inferInstanceAs (Decidable (_ ∈ _))

theorem isBlank_iff (c : Char) : isBlank c = true ↔ WhiteSpace c := by
  simp only [isBlank, WhiteSpace, Bool.or_eq_true, Bool.and_eq_true, decide_eq_true_eq, beq_iff_eq,
    List.mem_cons, List.not_mem_nil, or_false]
  omega

theorem isBlank_eq_false_iff (c : Char) : isBlank c = false ↔ ¬ WhiteSpace c := by
  rw [← isBlank_iff, Bool.not_eq_true]

/-- Around `inner` the text has white space and nothing else, and `inner` has none at its ends. -/
structure Encloses (text inner : String) : Prop where
  around : ∃ before after, text.toList = before ++ inner.toList ++ after ∧
    (∀ c ∈ before, WhiteSpace c) ∧ ∀ c ∈ after, WhiteSpace c
  first : ∀ c, inner.toList.head? = some c → ¬ WhiteSpace c
  last : ∀ c, inner.toList.getLast? = some c → ¬ WhiteSpace c

variable {cs before after : List Char} {text inner : String}

theorem dropWhile_of_head (h : ∀ c, cs.head? = some c → ¬ WhiteSpace c) : cs.dropWhile isBlank = cs := by
  cases cs with
  | nil => rfl
  | cons c cs => rw [List.dropWhile_cons_of_neg (by rw [isBlank_iff]; exact h c rfl)]

theorem head_dropWhile (cs : List Char) : ∀ c, (cs.dropWhile isBlank).head? = some c → ¬ WhiteSpace c := by
  intro c hc
  have hfirst := List.head?_dropWhile_not isBlank cs
  rw [hc] at hfirst
  exact (isBlank_eq_false_iff c).1 hfirst

/-- Trimming takes the white space around a text that has none at its ends. -/
theorem trimChars_around (hfirst : ∀ c, cs.head? = some c → ¬ WhiteSpace c)
    (hlast : ∀ c, cs.getLast? = some c → ¬ WhiteSpace c) (hbefore : ∀ c ∈ before, WhiteSpace c)
    (hafter : ∀ c ∈ after, WhiteSpace c) : trimChars (before ++ cs ++ after) = cs := by
  have hblank : ∀ {ds : List Char}, (∀ c ∈ ds, WhiteSpace c) → ∀ c ∈ ds, isBlank c = true :=
    fun h c hc => (isBlank_iff c).2 (h c hc)
  have hreverse : ∀ c, cs.reverse.head? = some c → ¬ WhiteSpace c := by
    rw [List.head?_reverse]
    exact hlast
  rw [trimChars, List.append_assoc, List.dropWhile_append_of_pos (hblank hbefore)]
  cases cs with
  | nil =>
      rw [List.nil_append, List.dropWhile_eq_nil_iff.2 (hblank hafter)]
      rfl
  | cons c cs =>
      have hsolid : (c :: cs ++ after).dropWhile isBlank = c :: cs ++ after := dropWhile_of_head hfirst
      rw [hsolid, List.reverse_append,
        List.dropWhile_append_of_pos (hblank fun d hd => hafter d (List.mem_reverse.1 hd)),
        dropWhile_of_head hreverse, List.reverse_reverse]

theorem encloses_trim (text : String) : Encloses text (trim text) := by
  have hinner : (trim text).toList = trimChars text.toList := toList_trim text
  set rest := text.toList.dropWhile isBlank with hrest
  have hback : rest.reverse.takeWhile isBlank ++ rest.reverse.dropWhile isBlank = rest.reverse :=
    List.takeWhile_append_dropWhile
  have hsplit : (trim text).toList ++ (rest.reverse.takeWhile isBlank).reverse = rest := by
    rw [hinner, trimChars, ← List.reverse_append, hback, List.reverse_reverse]
  refine ⟨⟨text.toList.takeWhile isBlank, (rest.reverse.takeWhile isBlank).reverse, ?_, ?_, ?_⟩, ?_, ?_⟩
  · rw [List.append_assoc, hsplit, hrest, List.takeWhile_append_dropWhile]
  · exact fun c hc => (isBlank_iff c).1 (List.mem_takeWhile_imp hc)
  · exact fun c hc => (isBlank_iff c).1 (List.mem_takeWhile_imp (List.mem_reverse.1 hc))
  · intro c hc
    refine head_dropWhile text.toList c ?_
    rw [← hrest, ← hsplit, List.head?_append, hc]
    rfl
  · rw [hinner, trimChars, ← hrest, List.getLast?_reverse]
    exact head_dropWhile rest.reverse

/-- **Trimming is to take the white space from both ends.** -/
theorem encloses_iff : Encloses text inner ↔ inner = trim text := by
  constructor
  · rintro ⟨⟨before, after, htext, hbefore, hafter⟩, hfirst, hlast⟩
    rw [trim, htext, trimChars_around hfirst hlast hbefore hafter, String.ofList_toList]
  · rintro rfl
    exact encloses_trim text

/-- White space around a text makes no difference. -/
theorem trim_padded {before after : String} (hbefore : ∀ c ∈ before.toList, WhiteSpace c)
    (hafter : ∀ c ∈ after.toList, WhiteSpace c) (text : String) :
    trim (before ++ text ++ after) = trim text := by
  obtain ⟨⟨front, back, htext, hfront, hback⟩, hfirst, hlast⟩ := encloses_trim text
  refine (encloses_iff.1 ⟨⟨before.toList ++ front, back ++ after.toList, ?_, ?_, ?_⟩, hfirst, hlast⟩).symm
  · simp only [String.toList_append, htext, List.append_assoc]
  · exact List.forall_mem_append.2 ⟨hbefore, hfront⟩
  · exact List.forall_mem_append.2 ⟨hback, hafter⟩

/-- What is trimmed is not trimmed any further. -/
theorem trim_trim (text : String) : trim (trim text) = trim text := by
  obtain ⟨-, hfirst, hlast⟩ := encloses_trim text
  exact (encloses_iff.1 ⟨⟨[], [], by simp, nofun, nofun⟩, hfirst, hlast⟩).symm

/-- Nothing is left of white space. -/
theorem trim_eq_nil_iff : (trim text).toList = [] ↔ ∀ c ∈ text.toList, WhiteSpace c := by
  constructor
  · intro hnil
    obtain ⟨⟨before, after, htext, hbefore, hafter⟩, -, -⟩ := encloses_trim text
    rw [htext, hnil, List.append_nil]
    exact List.forall_mem_append.2 ⟨hbefore, hafter⟩
  · intro hblank
    have hempty : Encloses text "" := ⟨⟨text.toList, [], by simp, hblank, nofun⟩, nofun, nofun⟩
    rw [← encloses_iff.1 hempty]
    rfl

end Daybook.Text
