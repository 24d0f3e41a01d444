import Daybook.Database
import Daybook.Proofs.Database.Checks
import Daybook.Proofs.Script.Atomic

/-!
A database that also enforces the checks of its tables and the size of its columns for amounts. As
long as no row breaks a check it cannot be told from one without checks (`honours_checked`,
`honours_backend`). An entry passes if its amount is in range (`EntryRow.insertable_ofEntry`), and a
record if its figures are (`RecordRow.insertable_ofReconciliation`).
-/

namespace Daybook

/-- The figures of the record are below 10¹⁵ in magnitude. -/
structure Reconciliation.Storable (r : Reconciliation) : Prop where
  expected : r.expected.isStorable = true
  calculated : r.calculated.isStorable = true
  difference : r.difference.isStorable = true

instance (r : Reconciliation) : Decidable r.Storable :=
  decidable_of_iff
    (r.expected.isStorable = true ∧ r.calculated.isStorable = true ∧ r.difference.isStorable = true)
    ⟨fun h => ⟨h.1, h.2.1, h.2.2⟩, fun h => ⟨h.expected, h.calculated, h.difference⟩⟩

namespace Database

/-- An amount is below 10¹⁵ in magnitude, as its column takes it. -/
def FitsColumn (d : Decimal) : Prop :=
  d.mantissa < tens 15 * tens d.scale

structure EntryRow.Insertable (r : EntryRow) : Prop where
  admissible : r.Admissible
  amount : FitsColumn r.amount

structure RecordRow.Insertable (r : RecordRow) : Prop where
  admissible : r.Admissible
  expected : FitsColumn r.expected
  calculated : FitsColumn r.calculated
  difference : FitsColumn r.difference

instance (d : Decimal) : Decidable (FitsColumn d) :=
  inferInstanceAs (Decidable (_ < _))

instance (r : EntryRow) : Decidable r.Insertable :=
  decidable_of_iff (r.Admissible ∧ FitsColumn r.amount)
    ⟨fun h => ⟨h.1, h.2⟩, fun h => ⟨h.admissible, h.amount⟩⟩

instance (r : RecordRow) : Decidable r.Insertable :=
  decidable_of_iff
    (r.Admissible ∧ FitsColumn r.expected ∧ FitsColumn r.calculated ∧ FitsColumn r.difference)
    ⟨fun h => ⟨h.1, h.2.1, h.2.2.1, h.2.2.2⟩,
      fun h => ⟨h.admissible, h.expected, h.calculated, h.difference⟩⟩

/-- No row that the call writes breaks a check. -/
def permits : Call Transaction → Bool
  | .insertOperation _ op => decide (OperationRow.ofOperation op).Admissible
  | .updateOperation _ op => decide (OperationRow.ofOperation op).Dated
  | .insertEntries _ es => es.all fun e => decide (EntryRow.ofEntry e).Insertable
  | .insertReconciliation r => decide (RecordRow.ofReconciliation r).Insertable
  | _ => true

/-- The database with its checks. A row that breaks one violates a constraint. -/
def checked : Backend Database Transaction where
  act c db := if permits c then backend.act c db else (.error violation, [], db)

/-- Calls that break no check are answered from the tables; others may be answered in any way. -/
def Honours (b : Backend Database Transaction) : Prop :=
  ∀ {c : Call Transaction} {db db' : Database} {reply : c.Reply}, permits c = true →
    db.answer c = (reply, db') → b.Answers c db reply db'

theorem honours_backend : Honours backend := by
  intro c db db' reply _ h
  have hact : backend.act c db = (reply, events c reply, db') := by
    simp only [backend, h]
  exact ⟨by rw [hact], by rw [hact]⟩

theorem honours_checked : Honours checked := by
  intro c db db' reply hc h
  have hact : checked.act c db = backend.act c db := if_pos hc
  rw [Backend.Answers, hact]
  exact honours_backend hc h

theorem fitsColumn_of_isStorable {m : Money} (h : m.isStorable = true) : FitsColumn m.amount :=
  of_decide_eq_true h

theorem EntryRow.insertable_ofEntry {e : Entry} (h : e.amount.isStorable = true) :
    (ofEntry e).Insertable :=
  ⟨admissible_ofEntry e, fitsColumn_of_isStorable h⟩

/-- Within the range the difference is exact. -/
theorem RecordRow.insertable_ofReconciliation {r : Reconciliation} (h : r.Storable) :
    (ofReconciliation r).Insertable where
  admissible := (admissible_ofReconciliation_iff r).2 (Money.exists_difference h.expected h.calculated)
  expected := fitsColumn_of_isStorable h.expected
  calculated := fitsColumn_of_isStorable h.calculated
  difference := fitsColumn_of_isStorable h.difference

end Database
end Daybook
