import Daybook.Database.Row
import Daybook.Proofs.Money.Value
import Daybook.Proofs.Results

/-!
The checks that the tables declare, and what of them holds for a row that is read back. A row becomes
a value exactly when it is the row of that value, up to blanks around its key or its currency and
digits that are rounded away (`OperationRow.toOperation_eq_ok_iff`, `EntryRow.toEntry_eq_ok_iff`,
`RecordRow.toReconciliation_eq_ok_iff`); every other row is corrupt. Entries then keep all checks of
their table. An operation can break the one on its moment of processing, which nobody looks at, and a
record the one on its difference, where that is rounded (`rows_restored`).
-/

namespace Daybook

namespace Database

/-! ### What the tables check -/

/-- `[A-Za-z0-9_-]{1,255}` -/
def KeyFormat (key : String) : Prop :=
  1 ≤ key.toList.length ∧ key.toList.length ≤ 255 ∧
    ∀ c ∈ key.toList, ('A' ≤ c ∧ c ≤ 'Z') ∨ ('a' ≤ c ∧ c ≤ 'z') ∨ ('0' ≤ c ∧ c ≤ '9') ∨
      c = '_' ∨ c = '-'

instance (key : String) : Decidable (KeyFormat key) :=
  inferInstanceAs (Decidable (_ ∧ _ ∧ _))

/-- There is a moment of processing exactly when the status is no longer processing. -/
def OperationRow.Dated (r : OperationRow) : Prop :=
  r.processedAt.isSome = true ↔ r.status ≠ .processing

structure OperationRow.Admissible (r : OperationRow) : Prop where
  key : KeyFormat r.key
  dated : r.Dated

structure EntryRow.Admissible (r : EntryRow) : Prop where
  nonzero : r.amount.value ≠ 0
  sign : r.direction = .credit ∧ 0 < r.amount.value ∨ r.direction = .debit ∧ r.amount.value < 0

structure RecordRow.Admissible (r : RecordRow) : Prop where
  difference : r.difference.value = r.expected.value - r.calculated.value
  status : r.status = .matching ↔ r.difference.value = 0

instance (r : OperationRow) : Decidable r.Dated :=
  inferInstanceAs (Decidable (_ ↔ _))

instance (r : OperationRow) : Decidable r.Admissible :=
  decidable_of_iff (KeyFormat r.key ∧ r.Dated)
    ⟨fun h => ⟨h.1, h.2⟩, fun h => ⟨h.key, h.dated⟩⟩

instance (r : EntryRow) : Decidable r.Admissible :=
  decidable_of_iff (r.amount.value ≠ 0 ∧
      (r.direction = .credit ∧ 0 < r.amount.value ∨ r.direction = .debit ∧ r.amount.value < 0))
    ⟨fun h => ⟨h.1, h.2⟩, fun h => ⟨h.nonzero, h.sign⟩⟩

instance (r : RecordRow) : Decidable r.Admissible :=
  decidable_of_iff (r.difference.value = r.expected.value - r.calculated.value ∧
      (r.status = .matching ↔ r.difference.value = 0))
    ⟨fun h => ⟨h.1, h.2⟩, fun h => ⟨h.difference, h.status⟩⟩

end Database

/-! ### Keys -/

namespace Reference

theorem isAllowed_iff (c : Char) :
    isAllowed c = true ↔ ('A' ≤ c ∧ c ≤ 'Z') ∨ ('a' ≤ c ∧ c ≤ 'z') ∨ ('0' ≤ c ∧ c ≤ '9') ∨
      c = '_' ∨ c = '-' := by
  have hupper : c.isUpper = true ↔ 'A' ≤ c ∧ c ≤ 'Z' := decide_eq_true_iff
  have hlower : c.isLower = true ↔ 'a' ≤ c ∧ c ≤ 'z' :=
    Bool.and_eq_true_iff.trans (and_congr decide_eq_true_iff decide_eq_true_iff)
  have hdigit : c.isDigit = true ↔ '0' ≤ c ∧ c ≤ '9' :=
    Bool.and_eq_true_iff.trans (and_congr decide_eq_true_iff decide_eq_true_iff)
  have halphanum : c.isAlphanum = ((c.isUpper || c.isLower) || c.isDigit) := rfl
  rw [isAllowed, halphanum]
  simp only [Bool.or_eq_true, beq_iff_eq, hupper, hlower, hdigit, or_assoc]

theorem keyFormat (r : Reference) : Database.KeyFormat r.text := by
  obtain ⟨hnonempty, hshort, hallowed⟩ := r.wellFormed
  refine ⟨List.length_pos_iff.2 hnonempty, hshort, fun c hc => ?_⟩
  exact (isAllowed_iff c).1 (hallowed c hc)

/-- Nothing but blanks is taken from a text that is read as a reference. -/
theorem parse_eq_ok_iff {text : String} {r : Reference} :
    parse text = .ok r ↔ r.text = Text.trim text := by
  rw [parse, ofTrimmed]
  constructor
  · intro h
    split_ifs at h
    split at h
    · cases h
    · cases h
      rfl
  · intro h
    have hchars : Text.trimChars text.toList = r.text.toList := by
      rw [h, Text.toList_trim]
    obtain ⟨hnonempty, hshort, hallowed⟩ := r.wellFormed
    rw [hchars, dif_neg hnonempty, dif_neg (Nat.not_lt.2 hshort)]
    split
    · rename_i c hbad
      have hfound := List.find?_some hbad
      have hgood := hallowed c (List.mem_of_find?_eq_some hbad)
      simp [hgood] at hfound
    · exact congrArg _ (ext (by simp))

end Reference

/-! ### Values and their rows -/

namespace Entry

theorem make_self (e : Entry) :
    make ⟨e.id.uuid, e.createdAt⟩ e.operation e.account e.amount e.direction e.purpose e.source =
      .ok e := by
  have hcarries := e.carries
  have hnonzero : e.amount.isZero = false := by
    have habs := e.amount.amount.natAbs_signed
    rw [Money.isZero, Decimal.isZero, beq_eq_false_iff_ne]
    cases hdirection : e.direction <;> rw [hdirection] at hcarries <;>
      simp only [Direction.Carries] at hcarries <;> omega
  rw [make, if_neg (by simp [hnonzero]), dif_pos hcarries]

/-- The row of an entry has what the entry was made of. -/
theorem eq_of_make {stamp : Stamp} {operation : OperationId} {account : AccountId}
    {amount : Money} {direction : Direction} {purpose : Purpose} {source : String} {e : Entry}
    (h : make stamp operation account amount direction purpose source = .ok e) :
    Database.EntryRow.ofEntry e =
      ⟨stamp.id, operation.uuid, account.uuid, amount.amount, amount.currency.code, direction, purpose,
        source, stamp.time⟩ := by
  rw [make] at h
  split_ifs at h
  cases h
  rfl

end Entry

namespace Reconciliation

theorem restore_self (r : Reconciliation) :
    restore r.id r.account r.date r.expected r.calculated r.difference r.status r.createdAt = .ok r := by
  rw [restore, dif_pos r.consistent]

theorem eq_of_restore {id : ReconciliationId} {account : AccountId} {date : Time}
    {expected calculated difference : Money} {status : Status} {createdAt : Time} {r : Reconciliation}
    (h : restore id account date expected calculated difference status createdAt = .ok r) :
    Database.RecordRow.ofReconciliation r =
      ⟨id.uuid, account.uuid, date, expected.amount, calculated.amount, difference.amount,
        expected.currency.code, status, createdAt⟩ := by
  rw [restore] at h
  split_ifs at h
  cases h
  rfl

/-- The difference is the same as what is computed, and the status is its status. -/
theorem exists_sub (r : Reconciliation) :
    ∃ derived, r.expected.sub r.calculated = .ok derived ∧ derived.same r.difference = true ∧
      r.status = .ofDifference r.difference := by
  have h := r.consistent
  rw [isConsistent] at h
  cases hsub : r.expected.sub r.calculated with
  | error e =>
      rw [hsub] at h
      cases h
  | ok derived =>
      rw [hsub] at h
      obtain ⟨hsame, hstatus⟩ := (Bool.and_eq_true _ _).mp h
      exact ⟨derived, rfl, hsame, beq_iff_eq.1 hstatus⟩

/-- The figures of a record are in one currency. -/
theorem currencies (r : Reconciliation) :
    r.calculated.currency = r.expected.currency ∧ r.difference.currency = r.expected.currency := by
  obtain ⟨derived, hsub, hsame, -⟩ := r.exists_sub
  obtain ⟨hcalculated, hderived, -⟩ := Money.sub_eq_ok hsub
  exact ⟨hcalculated, ((Money.same_iff _ _).1 hsame).2.symm.trans hderived⟩

theorem eq_ofDifference_iff {difference : Money} {status : Status} :
    status = .ofDifference difference ↔ (status = .matching ↔ difference.value = 0) := by
  rw [Status.ofDifference, Money.value_eq_zero_iff]
  cases status <;> split_ifs with hzero <;> simp [hzero]

/-- The status tells whether the difference is zero. -/
theorem status_iff (r : Reconciliation) : r.status = .matching ↔ r.difference.value = 0 := by
  obtain ⟨-, -, -, hstatus⟩ := r.exists_sub
  exact eq_ofDifference_iff.1 hstatus

end Reconciliation

namespace Database

/-- What is read back is corrupt, or a value with the property. -/
def Restores {α : Type} (r : Except StoreError α) (P : α → Prop) : Prop :=
  (∃ detail, r = .error (.corrupt detail)) ∨ ∃ a, r = .ok a ∧ P a

theorem Restores.intro {α : Type} {r : Except StoreError α} {P : α → Prop}
    (herror : ∀ cause, r = .error cause → ∃ detail, cause = .corrupt detail)
    (hok : ∀ a, r = .ok a → P a) : Restores r P := by
  cases hr : r with
  | error cause =>
      obtain ⟨detail, rfl⟩ := herror cause hr
      exact Or.inl ⟨detail, rfl⟩
  | ok a => exact Or.inr ⟨a, rfl, hok a hr⟩

theorem corrupt_of_mapError {ε α : Type} {r : Except ε α} {text : ε → String} {cause : StoreError}
    (h : r.mapError (fun e => StoreError.corrupt (text e)) = .error cause) :
    ∃ detail, cause = .corrupt detail := by
  obtain ⟨e, -, rfl⟩ := mapError_eq_error_iff.1 h
  exact ⟨text e, rfl⟩

/-- If what follows on a currency can only fail as corrupt, so can the whole. -/
theorem corrupt_of_readCurrency {α : Type} {code : String} {f : Currency → Except StoreError α}
    {cause : StoreError} (hf : ∀ c, f c = .error cause → ∃ detail, cause = .corrupt detail)
    (h : (readCurrency code >>= f) = .error cause) : ∃ detail, cause = .corrupt detail := by
  rcases except_bind_eq_error.1 h with hcurrency | ⟨c, -, hrest⟩
  · exact corrupt_of_mapError hcurrency
  · exact hf c hrest

theorem OperationRow.toOperation_eq_ok_iff {r : OperationRow} {op : Operation} :
    r.toOperation = .ok op ↔ ofOperation op = { r with key := Text.trim r.key } := by
  rw [toOperation]
  constructor
  · intro h
    split at h
    · rename_i reference hparse
      cases h
      rw [← Reference.parse_eq_ok_iff.1 hparse]
      rfl
    · cases h
  · intro h
    have hkey : op.reference.text = Text.trim r.key := congrArg OperationRow.key h
    rw [Reference.parse_eq_ok_iff.2 hkey]
    cases op
    cases r
    simp only [ofOperation, mk.injEq] at h
    obtain ⟨rfl, -, rfl, rfl, rfl, rfl, rfl⟩ := h
    rfl

/-- The row with its currency as it was read, and its amount rounded. -/
def EntryRow.settle (r : EntryRow) (c : Currency) : EntryRow :=
  { r with amount := (Money.new r.amount c).amount, currency := c.code }

theorem EntryRow.toEntry_eq_ok_iff {r : EntryRow} {e : Entry} :
    r.toEntry = .ok e ↔ ∃ c, readCurrency r.currency = .ok c ∧ ofEntry e = r.settle c := by
  rw [toEntry, except_bind_eq_ok]
  refine exists_congr fun c => and_congr_right fun _ => mapError_eq_ok_iff.trans ?_
  constructor
  · exact fun h => (Entry.eq_of_make h).trans rfl
  · intro h
    obtain ⟨hid, hoperation, haccount, hamount, hcode, hdirection, hpurpose, hsource, htime⟩ :=
      EntryRow.mk.inj h
    have hmoney : e.amount = Money.new r.amount c :=
      Money.ext hamount (Currency.code_injective _ _ hcode)
    rw [← hmoney, ← hid, ← hoperation, ← haccount, ← hdirection, ← hpurpose, ← hsource, ← htime]
    exact e.make_self

/-- The row with its currency as it was read, and its amounts rounded. -/
def RecordRow.settle (r : RecordRow) (c : Currency) : RecordRow :=
  { r with
    expected := (Money.new r.expected c).amount
    calculated := (Money.new r.calculated c).amount
    difference := (Money.new r.difference c).amount
    currency := c.code }

theorem RecordRow.toReconciliation_eq_ok_iff {r : RecordRow} {record : Reconciliation} :
    r.toReconciliation = .ok record ↔
      ∃ c, readCurrency r.currency = .ok c ∧ ofReconciliation record = r.settle c := by
  rw [toReconciliation, except_bind_eq_ok]
  refine exists_congr fun c => and_congr_right fun _ => mapError_eq_ok_iff.trans ?_
  constructor
  · exact fun h => (Reconciliation.eq_of_restore h).trans rfl
  · intro h
    obtain ⟨hid, haccount, hdate, hexpected, hcalculated, hdifference, hcode, hstatus, htime⟩ :=
      RecordRow.mk.inj h
    have hc : record.expected.currency = c := Currency.code_injective _ _ hcode
    obtain ⟨hcalculated', hdifference'⟩ := record.currencies
    rw [← Money.ext (a := record.expected) hexpected hc,
      ← Money.ext hcalculated (hcalculated'.trans hc),
      ← Money.ext hdifference (hdifference'.trans hc), ← hid, ← haccount, ← hdate, ← hstatus, ← htime]
    exact record.restore_self

/-! ### What is kept -/

/-- Every row of an entry passes the checks of its table. -/
theorem EntryRow.admissible_ofEntry (e : Entry) : (ofEntry e).Admissible := by
  have hcarries := e.carries
  cases hdirection : e.direction with
  | debit =>
      rw [hdirection] at hcarries
      have hnegative : e.amount.amount.value < 0 := (Decimal.value_neg_iff _).2 hcarries
      exact ⟨hnegative.ne, Or.inr ⟨hdirection, hnegative⟩⟩
  | credit =>
      rw [hdirection] at hcarries
      have hpositive : 0 < e.amount.amount.value := (Decimal.value_pos_iff _).2 hcarries
      exact ⟨hpositive.ne', Or.inl ⟨hdirection, hpositive⟩⟩

/-- The row of an operation passes the checks if its moment of processing fits its status. -/
theorem OperationRow.admissible_ofOperation_iff (op : Operation) :
    (ofOperation op).Admissible ↔ (op.processedAt.isSome = true ↔ op.status ≠ .processing) :=
  ⟨fun h => h.dated, fun h => ⟨op.reference.keyFormat, h⟩⟩

/-- The row of a record passes the checks if the exact difference is a decimal. -/
theorem RecordRow.admissible_ofReconciliation_iff (r : Reconciliation) :
    (ofReconciliation r).Admissible ↔ ∃ x : Decimal, x.value = r.expected.value - r.calculated.value := by
  obtain ⟨derived, hsub, hsame, -⟩ := r.exists_sub
  have hderived : derived.value = r.difference.value := ((Money.same_iff _ _).1 hsame).1
  have hexact := Money.value_sub_iff hsub
  rw [hderived] at hexact
  exact ⟨fun h => hexact.1 h.difference, fun h => ⟨hexact.2 h, r.status_iff⟩⟩

/-- **A row that is read back is corrupt, or what it becomes keeps the rules,** with two exceptions. An
operation is what its row says, with a key in the right format, and its moment of processing fits its
status only if that of the row does. The status of a record always tells whether the difference is zero,
but the difference is what is expected less what is calculated only if a decimal can hold that, as it
can whenever both fit their columns. An entry keeps all rules. -/
theorem rows_restored (operation : OperationRow) (entry : EntryRow) (record : RecordRow) :
    (Restores operation.toOperation fun op =>
      .ofOperation op = { operation with key := Text.trim operation.key } ∧
        KeyFormat op.reference.text ∧ ((OperationRow.ofOperation op).Admissible ↔ operation.Dated)) ∧
    (Restores entry.toEntry fun e =>
      (∃ c, readCurrency entry.currency = .ok c ∧ .ofEntry e = entry.settle c) ∧
        (EntryRow.ofEntry e).Admissible) ∧
    Restores record.toReconciliation fun r =>
      (∃ c, readCurrency record.currency = .ok c ∧ .ofReconciliation r = record.settle c) ∧
        (r.status = .matching ↔ r.difference.value = 0) ∧
        ((RecordRow.ofReconciliation r).Admissible ↔
          ∃ x : Decimal, x.value = r.expected.value - r.calculated.value) ∧
        (r.expected.isStorable = true → r.calculated.isStorable = true →
          (RecordRow.ofReconciliation r).Admissible) := by
  refine ⟨.intro ?_ ?_, .intro ?_ ?_, .intro ?_ ?_⟩
  · intro cause h
    rw [OperationRow.toOperation] at h
    split at h
    · cases h
    · cases h
      exact ⟨_, rfl⟩
  · intro op h
    have hrow := OperationRow.toOperation_eq_ok_iff.1 h
    refine ⟨hrow, op.reference.keyFormat, ?_⟩
    rw [OperationRow.admissible_ofOperation_iff]
    have hprocessed : op.processedAt = operation.processedAt := congrArg OperationRow.processedAt hrow
    have hstatus : op.status = operation.status := congrArg OperationRow.status hrow
    rw [hprocessed, hstatus, OperationRow.Dated]
  · exact fun cause h => corrupt_of_readCurrency (fun c => corrupt_of_mapError) h
  · exact fun e h => ⟨EntryRow.toEntry_eq_ok_iff.1 h, EntryRow.admissible_ofEntry e⟩
  · exact fun cause h => corrupt_of_readCurrency (fun c => corrupt_of_mapError) h
  · intro r h
    have hadmissible := RecordRow.admissible_ofReconciliation_iff r
    exact ⟨RecordRow.toReconciliation_eq_ok_iff.1 h, r.status_iff, hadmissible,
      fun hexpected hcalculated => hadmissible.2 (Money.exists_difference hexpected hcalculated)⟩

/-- A processed operation without a moment of processing. -/
def undated : OperationRow :=
  ⟨⟨1⟩, String.ofList ['A'], .deposit, .processed, .ofNanos 0, none, none⟩

/-- The largest decimal less the smallest amount, which no decimal can hold. -/
def unfitting : RecordRow :=
  let largest : Decimal := { Decimal.zero with mantissa := twos 96 - 1, mantissa_lt := by decide }
  let smallest : Decimal := ⟨false, 1, 4, by decide, by decide⟩
  ⟨⟨1⟩, ⟨1⟩, .ofNanos 0, largest, smallest, largest, "BRL", .mismatch, .ofNanos 0⟩

theorem exists_of_isSome {ε α : Type} {r : Except ε α} (h : r.toOption.isSome = true) :
    ∃ a, r = .ok a := by
  cases r with
  | error e => cases h
  | ok a => exact ⟨a, rfl⟩

/-- **Two rows that are read back although what they become breaks a rule.** -/
theorem broken_rows_restored :
    (∃ op, undated.toOperation = .ok op ∧ ¬ (OperationRow.ofOperation op).Admissible) ∧
      ∃ record, unfitting.toReconciliation = .ok record ∧
        ¬ (RecordRow.ofReconciliation record).Admissible := by
  constructor
  · obtain ⟨op, hop⟩ := exists_of_isSome (r := undated.toOperation) (by decide +kernel)
    refine ⟨op, hop, fun hadmissible => ?_⟩
    have hrow := OperationRow.toOperation_eq_ok_iff.1 hop
    rw [hrow] at hadmissible
    exact absurd hadmissible.dated (by decide)
  · obtain ⟨record, hrecord⟩ := exists_of_isSome (r := unfitting.toReconciliation) (by decide +kernel)
    refine ⟨record, hrecord, fun hadmissible => ?_⟩
    obtain ⟨c, hcurrency, hrow⟩ := RecordRow.toReconciliation_eq_ok_iff.1 hrecord
    have hbrl : readCurrency unfitting.currency = .ok .brl := rfl
    rw [hbrl] at hcurrency
    cases hcurrency
    rw [hrow] at hadmissible
    exact absurd hadmissible.difference (by decide +kernel)

end Database

end Daybook
