import Daybook.Proofs.Database.Checks

/-!
Which texts are references. Without the blanks around it a text has to be of one to 255 letters, digits,
underscores and hyphens, all of ASCII; every other text is faulty in one way (`Reference.Faulty`). Reading
tells the two apart and names the fault (`Reference.exists_parse_iff`, `Reference.parse_eq_error_iff`).
-/

namespace Daybook.Reference

variable {text : String} {e : ReferenceError}

/-- `[A-Za-z0-9_-]` -/
def KeyCharacter (c : Char) : Prop :=
  ('A' ≤ c ∧ c ≤ 'Z') ∨ ('a' ≤ c ∧ c ≤ 'z') ∨ ('0' ≤ c ∧ c ≤ '9') ∨ c = '_' ∨ c = '-'

/-- What is wrong with a text as a reference: it is blank, too long, or not too long and its first
character that is not allowed is `c`. -/
inductive Faulty (text : String) : ReferenceError → Prop where
  | blank (htext : (Text.trim text).toList = []) : Faulty text .empty
  | long (hlong : 255 < (Text.trim text).toList.length) :
      Faulty text (.tooLong (Text.trim text).toList.length 255)
  | character {before after : List Char} {c : Char}
      (htext : (Text.trim text).toList = before ++ c :: after)
      (hshort : (Text.trim text).toList.length ≤ 255) (hbefore : ∀ b ∈ before, KeyCharacter b)
      (hc : ¬ KeyCharacter c) : Faulty text (.invalidCharacter c)

theorem exists_parse_iff : (∃ r, parse text = .ok r) ↔ Database.KeyFormat (Text.trim text) := by
  constructor
  · rintro ⟨r, hr⟩
    rw [← parse_eq_ok_iff.1 hr]
    exact r.keyFormat
  · rintro ⟨hlength, hshort, hallowed⟩
    have hwellFormed : WellFormed (Text.trim text).toList :=
      ⟨List.length_pos_iff.1 hlength, hshort, fun c hc => (isAllowed_iff c).2 (hallowed c hc)⟩
    exact ⟨⟨Text.trim text, hwellFormed⟩, parse_eq_ok_iff.2 rfl⟩

/-- A text with a fault is not of the format. -/
theorem Faulty.not_keyFormat (h : Faulty text e) : ¬ Database.KeyFormat (Text.trim text) := by
  rintro ⟨hlength, hshort, hallowed⟩
  cases h with
  | blank htext => simp [htext] at hlength
  | long hlong => omega
  | character htext _ _ hc =>
      rw [htext] at hallowed
      exact hc (hallowed _ (List.mem_append_right _ List.mem_cons_self))

theorem faulty_of_parse (h : parse text = .error e) : Faulty text e := by
  rw [parse, ofTrimmed, ← Text.toList_trim] at h
  split_ifs at h with hblank hlong
  · cases h
    exact .blank hblank
  · cases h
    exact .long hlong
  · split at h
    · rename_i c hbad
      cases h
      obtain ⟨hc, before, after, htext, hbefore⟩ := List.find?_eq_some_iff_append.1 hbad
      refine .character htext (Nat.not_lt.1 hlong) (fun b hb => ?_) fun hgood => ?_
      · exact (isAllowed_iff b).1 (by simpa using hbefore b hb)
      · rw [(isAllowed_iff c).2 hgood] at hc
        cases hc
    · cases h

theorem parse_of_faulty (h : Faulty text e) : parse text = .error e := by
  rw [parse, ofTrimmed, ← Text.toList_trim]
  cases h with
  | blank htext => rw [dif_pos htext]
  | long hlong =>
      have hne : (Text.trim text).toList ≠ [] := by
        intro hblank
        simp [hblank] at hlong
      rw [dif_neg hne, dif_pos (show (Text.trim text).toList.length > maxLength from hlong)]
      rfl
  | @character before after c htext hshort hbefore hc =>
      have hne : (Text.trim text).toList ≠ [] := by simp [htext]
      have hbad : (Text.trim text).toList.find? (fun b => !isAllowed b) = some c := by
        rw [List.find?_eq_some_iff_append]
        refine ⟨?_, before, after, htext, fun b hb => ?_⟩
        · simpa using fun hgood => hc ((isAllowed_iff c).1 hgood)
        · simpa using (isAllowed_iff b).2 (hbefore b hb)
      rw [dif_neg hne, dif_neg (show ¬ (Text.trim text).toList.length > maxLength from Nat.not_lt.2 hshort)]
      split
      · rename_i c' hfound
        rw [hbad] at hfound
        cases hfound
        rfl
      · rename_i hnone
        rw [hbad] at hnone
        cases hnone

/-- A text is refused exactly for the fault that it has. -/
theorem parse_eq_error_iff : parse text = .error e ↔ Faulty text e :=
  ⟨faulty_of_parse, parse_of_faulty⟩

end Daybook.Reference
