import Daybook.Proofs.Reference.Grammar
import Daybook.Proofs.Text.Trimmed

/-!
References are canonical. The reference that a text is read as is the trimmed text, so it is read as itself,
and texts are read as one reference exactly when they are the same between white space. Whatever white space
stands around a text, the outcome is the same, and for a text that is not of the format it is the fault that
the text has (`Reference.parse_canonical`).
-/

namespace Daybook.Reference

open Text (Encloses WhiteSpace)

variable {text text' : String} {r r' : Reference}

/-- A reference is read as itself. -/
theorem parse_text (h : parse text = .ok r) : parse r.text = .ok r := by
  rw [parse_eq_ok_iff] at h ⊢
  rw [h, Text.trim_trim]

theorem eq_iff_trim_eq (h : parse text = .ok r) (h' : parse text' = .ok r') :
    r = r' ↔ Text.trim text = Text.trim text' := by
  rw [← parse_eq_ok_iff.1 h, ← parse_eq_ok_iff.1 h']
  exact ⟨congrArg Reference.text, ext⟩

/-- Reading looks at the trimmed text alone. -/
theorem parse_congr (h : Text.trim text = Text.trim text') : parse text = parse text' := by
  rw [parse, parse, ← Text.toList_trim, ← Text.toList_trim, h]

theorem parse_padded {before after : String} (hbefore : ∀ c ∈ before.toList, WhiteSpace c)
    (hafter : ∀ c ∈ after.toList, WhiteSpace c) (text : String) :
    parse (before ++ text ++ after) = parse text :=
  parse_congr (Text.trim_padded hbefore hafter text)

theorem parse_eq_empty_iff : parse text = .error .empty ↔ ∀ c ∈ text.toList, WhiteSpace c := by
  rw [parse_eq_error_iff, ← Text.trim_eq_nil_iff]
  constructor
  · rintro ⟨htext⟩
    exact htext
  · exact .blank

/-- **Exactly the texts of the format are references, and a reference is its trimmed text.** Trimming takes
all white space from both ends and nothing else; what is left has to be of one to 255 letters, digits,
underscores and hyphens. Then it is the reference, which is read as itself, and two texts are one reference
exactly when the same is left of both. White space around a text changes nothing. Otherwise the text is
blank, or it is too long, and by how many characters is said, or its first character that is not allowed is
named. -/
theorem parse_canonical (text : String) :
    (∀ inner, Encloses text inner ↔ inner = Text.trim text) ∧
    ((∃ r, parse text = .ok r) ↔ Database.KeyFormat (Text.trim text)) ∧
    (∀ r, parse text = .ok r → r.text = Text.trim text ∧ parse r.text = .ok r ∧
      ∀ text' r', parse text' = .ok r' → (r = r' ↔ Text.trim text = Text.trim text')) ∧
    (∀ before after : String, (∀ c ∈ before.toList, WhiteSpace c) → (∀ c ∈ after.toList, WhiteSpace c) →
      parse (before ++ text ++ after) = parse text) ∧
    (∀ e, parse text = .error e ↔ Faulty text e) ∧
    (parse text = .error .empty ↔ ∀ c ∈ text.toList, WhiteSpace c) :=
  ⟨fun _ => Text.encloses_iff, exists_parse_iff,
    fun _ h => ⟨parse_eq_ok_iff.1 h, parse_text h, fun _ _ => eq_iff_trim_eq h⟩,
    fun _ _ hbefore hafter => parse_padded hbefore hafter text, fun _ => parse_eq_error_iff,
    parse_eq_empty_iff⟩

/-- A space and a tab around a text that is a reference: there is one reference. -/
theorem parse_canonical_padded : ∃ r r',
    parse "dup-1" = .ok r ∧ parse (" " ++ "dup-1" ++ "\t") = .ok r' ∧ r = r' ∧ r.text = "dup-1" := by
  obtain ⟨-, hformat, hreads, hpadded, -, -⟩ := parse_canonical "dup-1"
  have hkey : Database.KeyFormat (Text.trim "dup-1") := by
    rw [show Text.trim "dup-1" = "dup-1" by decide +kernel]
    refine ⟨by decide, by decide, ?_⟩
    simp
  obtain ⟨r, hr⟩ := hformat.2 hkey
  have hblank : parse (" " ++ "dup-1" ++ "\t") = .ok r :=
    (hpadded " " "\t" (List.forall_mem_singleton.2 (by decide))
      (List.forall_mem_singleton.2 (by decide))).trans hr
  obtain ⟨htext, -, hsame⟩ := hreads r hr
  exact ⟨r, r, hr, hblank, (hsame _ r hblank).2 (by decide +kernel), htext.trans (by decide +kernel)⟩

end Daybook.Reference
