import Daybook.Proofs.Database.Checks

/-!
Rows that were written are read back as what they were written from: accounts, operations, entries and
records alike, in every currency and however big their amounts are (`rows_lossless`). So are lists of
them (`mapM_rows`) and what is found or not (`mapM_found`).
-/

namespace Daybook

/-! ### Keys and currencies -/

namespace Reference

theorem isBlank_of_isAllowed {c : Char} (h : isAllowed c = true) : Text.isBlank c = false := by
  have hrange : (65 ≤ c.toNat ∧ c.toNat ≤ 90) ∨ (97 ≤ c.toNat ∧ c.toNat ≤ 122) ∨
      (48 ≤ c.toNat ∧ c.toNat ≤ 57) ∨ c.toNat = 95 ∨ c.toNat = 45 := by
    rcases (isAllowed_iff c).1 h with hupper | hlower | hdigit | rfl | rfl
    · exact Or.inl hupper
    · exact Or.inr (Or.inl hlower)
    · exact Or.inr (Or.inr (Or.inl hdigit))
    · exact Or.inr (Or.inr (Or.inr (Or.inl rfl)))
    · exact Or.inr (Or.inr (Or.inr (Or.inr rfl)))
  simp only [Text.isBlank, Bool.or_eq_false_iff, Bool.and_eq_false_iff, decide_eq_false_iff_not,
    beq_eq_false_iff_ne]
  omega

/-- There are no blanks around a reference. -/
theorem trim_text (r : Reference) : Text.trim r.text = r.text := by
  obtain ⟨-, -, hallowed⟩ := r.wellFormed
  have hsolid : ∀ c ∈ r.text.toList, Text.isBlank c = false := fun c hc => isBlank_of_isAllowed (hallowed c hc)
  have hreverse : ∀ c ∈ r.text.toList.reverse, Text.isBlank c = false := fun c hc =>
    hsolid c (List.mem_reverse.1 hc)
  rw [Text.trim, Text.trimChars, Text.dropWhile_of_solid hsolid, Text.dropWhile_of_solid hreverse,
    List.reverse_reverse, String.ofList_toList]

end Reference

namespace Database

theorem readCurrency_code (c : Currency) : readCurrency c.code = .ok c := by
  cases c <;> rfl

/-! ### Rows -/

theorem OperationRow.toOperation_ofOperation (op : Operation) : (ofOperation op).toOperation = .ok op := by
  rw [toOperation_eq_ok_iff]
  show _ = { ofOperation op with key := Text.trim op.reference.text }
  rw [op.reference.trim_text]
  rfl

theorem EntryRow.toEntry_ofEntry (e : Entry) : (ofEntry e).toEntry = .ok e := by
  refine toEntry_eq_ok_iff.2 ⟨e.amount.currency, readCurrency_code _, ?_⟩
  show _ = { ofEntry e with
    amount := (Money.new e.amount.amount e.amount.currency).amount
    currency := e.amount.currency.code }
  rw [Money.new_self]
  rfl

theorem RecordRow.toReconciliation_ofReconciliation (r : Reconciliation) :
    (ofReconciliation r).toReconciliation = .ok r := by
  refine toReconciliation_eq_ok_iff.2 ⟨r.expected.currency, readCurrency_code _, ?_⟩
  obtain ⟨hcalculated, hdifference⟩ := r.currencies
  have hself : ∀ m : Money, m.currency = r.expected.currency →
      (Money.new m.amount r.expected.currency).amount = m.amount := by
    intro m hm
    rw [← hm, Money.new_self]
  show ofReconciliation r = { ofReconciliation r with
    expected := (Money.new r.expected.amount r.expected.currency).amount
    calculated := (Money.new r.calculated.amount r.expected.currency).amount
    difference := (Money.new r.difference.amount r.expected.currency).amount
    currency := r.expected.currency.code }
  rw [hself _ rfl, hself _ hcalculated, hself _ hdifference]
  rfl

/-- **No row loses anything.** Written to a row and read back, every value is there again as it was,
field by field. An amount keeps its digits also where it is too big to have four after the point. -/
theorem rows_lossless :
    (∀ a : Account, (AccountRow.ofAccount a).toAccount = a) ∧
    (∀ op : Operation, (OperationRow.ofOperation op).toOperation = .ok op) ∧
    (∀ e : Entry, (EntryRow.ofEntry e).toEntry = .ok e) ∧
    ∀ r : Reconciliation, (RecordRow.ofReconciliation r).toReconciliation = .ok r :=
  ⟨AccountRow.toAccount_ofAccount, OperationRow.toOperation_ofOperation, EntryRow.toEntry_ofEntry,
    RecordRow.toReconciliation_ofReconciliation⟩

/-- If every row is read back as what it was written from, so is a list of rows. -/
theorem mapM_rows {α β : Type} {write : α → β} {read : β → Except StoreError α}
    (h : ∀ a, read (write a) = .ok a) (as : List α) : (as.map write).mapM read = .ok as := by
  have hpure : read ∘ write = fun a => pure a := funext h
  rw [List.mapM_map, hpure, List.mapM_pure, List.map_id']
  rfl

theorem mapM_found {α β : Type} {write : α → β} {read : β → Except StoreError α}
    (h : ∀ a, read (write a) = .ok a) (found : Option α) : (found.map write).mapM read = .ok found := by
  cases found with
  | none => rfl
  | some a =>
      show (read (write a) >>= fun a => pure (some a)) = _
      rw [h]
      rfl

end Database
end Daybook
