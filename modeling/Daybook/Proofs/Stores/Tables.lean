import Daybook.Proofs.Database.Checked
import Daybook.Proofs.Database.RoundTrip
import Daybook.Proofs.Memory.Intact
import Daybook.Proofs.Memory.Rows
import Daybook.Proofs.Memory.Tidy
import Daybook.Proofs.Stores.Reading
import Mathlib.Data.List.Pairwise

/-!
The rows of a store in memory as the tables of a database. In a sound store no two entries and no two
records share a moment, so the order by moment, with which the one side sorts, and the order by
moment and id, with which the other does, are one order. Main statement: the database answers
searches from its tables as the store in memory does from its rows (`Memory.Sound.reads`).
-/

namespace Daybook

/-! ### Stamps -/

/-- The order by time, then by id. -/
def Stamp.le (a b : Stamp) : Bool :=
  if a.time = b.time then a.id.le b.id else a.time.le b.time

theorem Stamp.Apart.symm {a b : Stamp} (h : a.Apart b) : b.Apart a :=
  ⟨h.1.symm, h.2.symm⟩

def Entry.stamp (e : Entry) : Stamp :=
  ⟨e.id.uuid, e.createdAt⟩

def Reconciliation.stamp (r : Reconciliation) : Stamp :=
  ⟨r.id.uuid, r.createdAt⟩

/-- The stamps of two members are apart. -/
def Spaced {α : Type} (stamp : α → Stamp) (l : List α) : Prop :=
  l.Pairwise fun a b => (stamp a).Apart (stamp b)

namespace Spaced

variable {α β : Type} {stamp : α → Stamp} {l : List α}

theorem eq_of_time (h : Spaced stamp l) {a b : α} (ha : a ∈ l) (hb : b ∈ l)
    (htime : (stamp a).time = (stamp b).time) : a = b := by
  let R (a b : α) : Prop := a = b ∨ (stamp a).Apart (stamp b)
  have hsymm : Std.Symm R := ⟨fun a b h => h.imp Eq.symm Stamp.Apart.symm⟩
  have hall := @List.Pairwise.forall_of_forall α R l hsymm (fun _ _ => Or.inl rfl) (List.Pairwise.imp Or.inr h)
  exact (hall ha hb).resolve_right fun hapart => hapart.2 htime

/-- Where moments decide, ids are not looked at. -/
theorem le_eq (h : Spaced stamp l) {a b : α} (ha : a ∈ l) (hb : b ∈ l) :
    (stamp a).le (stamp b) = (stamp a).time.le (stamp b).time := by
  rw [Stamp.le]
  split_ifs with htime
  · rw [h.eq_of_time ha hb htime, Time.le_refl, Uuid.le, decide_eq_true (Nat.le_refl _)]
  · rfl

/-- There is one way to sort. -/
theorem eq_of_perm (h : Spaced stamp l) {l₁ l₂ : List α}
    (h₁ : l₁.Pairwise fun a b => (stamp a).time.le (stamp b).time = true)
    (h₂ : l₂.Pairwise fun a b => (stamp a).time.le (stamp b).time = true)
    (hperm₁ : l₁.Perm l) (hperm₂ : l₂.Perm l) : l₁ = l₂ := by
  refine List.Perm.eq_of_pairwise ?_ h₁ h₂ (hperm₁.trans hperm₂.symm)
  intro a b ha hb hab hba
  exact h.eq_of_time (hperm₁.mem_iff.1 ha) (hperm₂.mem_iff.1 hb) (Time.le_antisymm hab hba)

end Spaced

section Sorting

variable {α : Type} (time : α → Time)

theorem pairwise_byTime (l : List α) :
    (l.mergeSort fun a b => (time a).le (time b)).Pairwise fun a b => (time a).le (time b) = true :=
  List.pairwise_mergeSort (fun a b c => @Time.le_trans (time a) (time b) (time c))
    (fun a b => Time.le_total (time a) (time b)) l

theorem pairwise_newestFirst (l : List α) :
    (l.mergeSort fun a b => (time b).le (time a)).Pairwise fun a b => (time b).le (time a) = true :=
  List.pairwise_mergeSort (fun a b c hab hbc => @Time.le_trans (time c) (time b) (time a) hbc hab)
    (fun a b => Time.le_total (time b) (time a)) l

end Sorting

/-- Entries that came in the order of time are in order already. -/
theorem Memory.entriesOf_of_sorted {m : Memory}
    (h : m.entries.Pairwise fun a b => a.createdAt.le b.createdAt = true) (id : AccountId) :
    m.entriesOf id = m.entries.filter (·.account == id) :=
  List.mergeSort_of_pairwise (h.filter _)

theorem Id.beq_uuid {subject : Subject} (a b : Id subject) : (a.uuid == b.uuid) = (a == b) := by
  cases a
  cases b
  exact decide_eq_decide.2 ⟨congrArg Id.mk, Id.mk.inj⟩

theorem Id.bne_uuid {subject : Subject} (a b : Id subject) : (a.uuid != b.uuid) = decide (a ≠ b) := by
  rw [bne, decide_not]
  exact congrArg _ (beq_uuid a b)

/-! ### Tables -/

namespace Memory

/-- The database with the rows of a store in memory. -/
def tables (m : Memory) : Database where
  accounts := m.accounts.values.map .ofAccount
  operations := m.operations.values.map .ofOperation
  entries := m.entries.map .ofEntry
  records := m.reconciliations.map .ofReconciliation
  columns := .typed
  broken := []
  closed := false
  stopped := false

/-- Accounts and operations are keyed and indexed, what is named is there, and stamps are apart. -/
structure Sound (m : Memory) : Prop where
  accounts : m.accounts.Keyed (·.id)
  operations : m.operations.Keyed (·.id)
  indexed : m.Indexed
  intact : m.Intact
  entries : Spaced Entry.stamp m.entries
  records : Spaced Reconciliation.stamp m.reconciliations

theorem Sound.empty : Sound .empty :=
  ⟨.empty, .empty, .empty, .empty, List.Pairwise.nil, List.Pairwise.nil⟩

end Memory

namespace Database

variable {m : Memory}

/-! ### Lists -/

theorem mapM_ok {α : Type} {f : α → Except StoreError α} (h : ∀ a, f a = .ok a) (as : List α) :
    as.mapM f = .ok as := by
  have hrows := mapM_rows h as
  rwa [List.map_id'] at hrows

theorem readEntries_tables (m : Memory) (es : List Entry) :
    m.tables.readEntries (es.map .ofEntry) = .ok es := by
  have hfetch := mapM_ok (f := m.tables.fetchEntry) (fun _ => rfl) (es.map .ofEntry)
  rw [readEntries, hfetch]
  exact mapM_rows EntryRow.toEntry_ofEntry es

/-- The records of the tables are read back, sorted by their stamps from the last one on. -/
theorem listRecords_eq (m : Memory) (p : RecordRow → Bool) :
    m.tables.listRecords p = .ok ((m.reconciliations.filter fun r => p (.ofReconciliation r)).mergeSort
      fun a b => b.stamp.le a.stamp) := by
  have hsort : (m.tables.records.filter p).mergeSort (fun a b => recordLe .typed b a) =
      ((m.reconciliations.filter fun r => p (.ofReconciliation r)).mergeSort
        fun a b => b.stamp.le a.stamp).map .ofReconciliation := by
    have hstamps : ∀ a b : Reconciliation, b.stamp.le a.stamp =
        recordLe .typed (.ofReconciliation b) (.ofReconciliation a) := fun _ _ => rfl
    rw [Memory.tables, List.filter_map]
    exact (List.map_mergeSort fun a _ b _ => hstamps a b).symm
  have hfetch := mapM_ok (f := m.tables.fetchRecord) (fun _ => rfl)
  show (((m.tables.records.filter p).mergeSort fun a b => recordLe .typed b a).mapM
    m.tables.fetchRecord >>= fun rows => rows.mapM RecordRow.toReconciliation) = _
  rw [hfetch, hsort]
  exact mapM_rows RecordRow.toReconciliation_ofReconciliation _

theorem listRecords_tables (hm : m.Sound) (p : RecordRow → Bool) :
    m.tables.listRecords p =
      .ok (Memory.newestFirst (m.reconciliations.filter fun r => p (.ofReconciliation r))) := by
  have hspaced : Spaced Reconciliation.stamp (m.reconciliations.filter fun r => p (.ofReconciliation r)) :=
    List.Pairwise.filter _ hm.records
  have hsort := List.map_mergeSort (f := fun r => r) fun a ha b hb => hspaced.le_eq hb ha
  rw [List.map_id', List.map_id'] at hsort
  rw [listRecords_eq, hsort]
  rfl

theorem sort_ofEntry {es : List Entry} (hes : Spaced Entry.stamp es) :
    (es.map EntryRow.ofEntry).mergeSort (entryLe .typed) =
      (es.mergeSort fun a b => a.createdAt.le b.createdAt).map .ofEntry :=
  (List.map_mergeSort (f := EntryRow.ofEntry) fun _ ha _ hb => (hes.le_eq ha hb).symm).symm

theorem filter_account (m : Memory) (id : AccountId) :
    m.tables.entries.filter (·.account == id.uuid) =
      (m.entries.filter (·.account == id)).map .ofEntry := by
  rw [Memory.tables, List.filter_map]
  refine congrArg _ (List.filter_congr fun e _ => ?_)
  exact Id.beq_uuid e.account id

theorem entriesOf_tables (hm : m.Sound) (id : AccountId) :
    m.tables.entriesOf id.uuid = .ok (m.entriesOf id) := by
  show m.tables.readEntries ((m.tables.entries.filter (·.account == id.uuid)).mergeSort
    (entryLe .typed)) = _
  rw [filter_account, sort_ofEntry (List.Pairwise.filter _ hm.entries)]
  exact readEntries_tables m _

/-- To sort the other way round is to reverse what is sorted. -/
theorem recentEntries_tables (hm : m.Sound) (id : AccountId) (limit : Nat) :
    m.tables.recentEntries id.uuid limit = .ok (m.recentEntries id limit) := by
  have hes : Spaced Entry.stamp (m.entries.filter (·.account == id)) :=
    List.Pairwise.filter _ hm.entries
  have hsort : ((m.entries.filter (·.account == id)).map EntryRow.ofEntry).mergeSort
      (fun a b => entryLe .typed b a) =
        ((m.entries.filter (·.account == id)).mergeSort
          fun a b => b.createdAt.le a.createdAt).map .ofEntry :=
    (List.map_mergeSort fun _ ha _ hb => (hes.le_eq hb ha).symm).symm
  have hreverse : ((m.entries.filter (·.account == id)).mergeSort
      fun a b => b.createdAt.le a.createdAt) = (m.entriesOf id).reverse := by
    rw [← List.reverse_eq_iff]
    refine hes.eq_of_perm ?_ (pairwise_byTime Entry.createdAt _) ?_ (List.mergeSort_perm _ _)
    · exact List.pairwise_reverse.2 (pairwise_newestFirst Entry.createdAt _)
    · exact (List.reverse_perm _).trans (List.mergeSort_perm _ _)
  show m.tables.readEntries (((m.tables.entries.filter (·.account == id.uuid)).mergeSort
    fun a b => entryLe .typed b a).take limit) = _
  rw [filter_account, hsort, hreverse, ← List.map_take]
  exact readEntries_tables m _

/-- To choose the entries up to a moment before sorting or after it comes to the same. -/
theorem entriesUpTo_tables (hm : m.Sound) (id : AccountId) (cutoff : Time) :
    m.tables.entriesUpTo id.uuid cutoff = .ok (Entry.upTo cutoff (m.entriesOf id)) := by
  let early := (m.entries.filter (·.account == id)).filter (·.createdAt.le cutoff)
  have hes : Spaced Entry.stamp early := List.Pairwise.filter _ (List.Pairwise.filter _ hm.entries)
  have hfilter : (m.tables.entries.filter fun r =>
      r.account == id.uuid && Columns.timeLe .typed r.createdAt cutoff) = early.map .ofEntry := by
    simp only [early]
    rw [Memory.tables, List.filter_map, List.filter_filter]
    refine congrArg _ (List.filter_congr fun e _ => ?_)
    show (e.account.uuid == id.uuid && e.createdAt.le cutoff) = _
    rw [Id.beq_uuid, Bool.and_comm]
  have hsort : early.mergeSort (fun a b => a.createdAt.le b.createdAt) =
      Entry.upTo cutoff (m.entriesOf id) := by
    refine hes.eq_of_perm (pairwise_byTime Entry.createdAt _) ?_ (List.mergeSort_perm _ _) ?_
    · exact (pairwise_byTime Entry.createdAt _).filter _
    · exact (List.mergeSort_perm _ _).filter _
  show m.tables.readEntries ((m.tables.entries.filter fun r =>
      r.account == id.uuid && Columns.timeLe .typed r.createdAt cutoff).mergeSort (entryLe .typed)) = _
  rw [hfilter, sort_ofEntry hes, hsort]
  exact readEntries_tables m _

/-! ### Rows -/

theorem findAccount_tables (hm : m.Sound) (id : AccountId) :
    m.tables.findAccount id.uuid = .ok (m.accounts.get? id) := by
  have hfind : (m.accounts.values.find? fun a => a.id.uuid == id.uuid) = m.accounts.get? id := by
    simp only [Id.beq_uuid]
    exact hm.accounts.find?_values id
  show Except.ok ((m.tables.accounts.find? (·.id == id.uuid)).map AccountRow.toAccount) = _
  rw [Memory.tables, List.find?_map, Option.map_map]
  show Except.ok (Option.map (fun a => a) (m.accounts.values.find? fun a => a.id.uuid == id.uuid)) = _
  rw [hfind, Option.map_id']

/-- The row with a key is that of the operation that is found by the reference. -/
theorem find?_key (hm : m.Sound) (r : Reference) :
    m.tables.operations.find? (·.key == r.text) = (m.findByReference r).map .ofOperation := by
  rw [Memory.tables, List.find?_map]
  refine congrArg _ ?_
  show (m.operations.values.find? fun op => op.reference.text == r.text) = m.findByReference r
  cases hfound : m.operations.values.find? fun op => op.reference.text == r.text with
  | none =>
      cases hreference : m.findByReference r with
      | none => rfl
      | some op =>
          obtain ⟨hop, rfl⟩ := hm.indexed.find_iff.1 hreference
          have hmem := hm.operations.mem_values_iff.2 hop
          simpa using List.find?_eq_none.1 hfound op hmem
  | some op =>
      have htext : op.reference.text = r.text := by simpa using List.find?_some hfound
      have hop := hm.operations.mem_values_iff.1 (List.mem_of_find?_eq_some hfound)
      exact (hm.indexed.find_iff.2 ⟨hop, Reference.ext htext⟩).symm

theorem findByKey_tables (hm : m.Sound) (r : Reference) :
    m.tables.findByKey r.text = .ok (m.findByReference r) := by
  show (m.tables.operations.find? (·.key == r.text)).mapM OperationRow.toOperation = _
  rw [find?_key hm]
  exact mapM_found OperationRow.toOperation_ofOperation _

theorem findRecord_tables (m : Memory) (id : ReconciliationId) :
    m.tables.findRecord id.uuid = .ok (m.findReconciliation id) := by
  have hfind : m.tables.records.find? (·.id == id.uuid) =
      (m.findReconciliation id).map .ofReconciliation := by
    rw [Memory.tables, List.find?_map, Memory.findReconciliation]
    show ((m.reconciliations.find? fun r => r.id.uuid == id.uuid).map _) = _
    simp only [Id.beq_uuid]
  show ((m.tables.records.find? (·.id == id.uuid)).mapM m.tables.fetchRecord >>=
    fun found => found.mapM RecordRow.toReconciliation) = _
  have hfetch : ∀ found : Option RecordRow, found.mapM m.tables.fetchRecord = .ok found := by
    intro found
    cases found <;> rfl
  rw [hfetch, hfind]
  exact mapM_found RecordRow.toReconciliation_ofReconciliation _

/-! ### What the tables have -/

theorem hasAccount_tables (hm : m.Sound) (id : AccountId) :
    m.tables.hasAccount id.uuid = m.accounts.contains id := by
  rw [hasAccount, Memory.tables, List.any_map, ← hm.accounts.any_values]
  refine congrArg _ (funext fun a => ?_)
  exact Id.beq_uuid a.id id

theorem hasOperation_tables (hm : m.Sound) (id : OperationId) :
    m.tables.operations.any (·.id == id.uuid) = m.operations.contains id := by
  rw [Memory.tables, List.any_map, ← hm.operations.any_values]
  refine congrArg _ (funext fun op => ?_)
  exact Id.beq_uuid op.id id

theorem any_key (hm : m.Sound) (r : Reference) :
    m.tables.operations.any (·.key == r.text) = (m.findByReference r).isSome := by
  rw [← Option.isSome_map (f := OperationRow.ofOperation), ← find?_key hm, Bool.eq_iff_iff,
    List.any_eq_true, List.find?_isSome]

theorem usesAccount_tables (m : Memory) (id : AccountId) :
    (m.tables.entries.any (·.account == id.uuid) || m.tables.records.any (·.account == id.uuid)) =
      m.usesAccount id := by
  rw [Memory.tables, List.any_map, List.any_map, Memory.usesAccount]
  simp only [Function.comp_def, EntryRow.ofEntry, RecordRow.ofReconciliation, Id.beq_uuid]

theorem usesOperation_tables (m : Memory) (id : OperationId) :
    m.tables.entries.any (·.operation == id.uuid) = m.usesOperation id := by
  rw [Memory.tables, List.any_map, Memory.usesOperation]
  simp only [Function.comp_def, EntryRow.ofEntry, Id.beq_uuid]

end Database

/-- **A database answers searches from its tables as a store in memory does from its rows.** -/
theorem Memory.Sound.reads {m : Memory} (hm : m.Sound) {b : Backend Database Database.Transaction}
    (hb : Database.Honours b) : b.Reads m.tables m := by
  have hanswers : ∀ {c : Call Database.Transaction} {r : c.Reply}, Database.permits c = true →
      m.tables.answer c = (r, m.tables) → b.Answers c m.tables r m.tables := hb
  refine ⟨fun id => hanswers rfl ?_, hanswers rfl ?_, fun r => hanswers rfl ?_, fun id => hanswers rfl ?_,
    fun id limit hlimit => hanswers rfl ?_, fun id cutoff => hanswers rfl ?_, fun id => hanswers rfl ?_,
    fun id => hanswers rfl ?_, hanswers rfl ?_⟩
  · exact congrArg (·, m.tables) (Database.findAccount_tables hm id)
  · have hlength : m.tables.accounts.length = m.accounts.size :=
      (List.length_map _).trans (Table.length_values _)
    exact congrArg (fun n => (Except.ok n, m.tables)) hlength
  · exact congrArg (·, m.tables) (Database.findByKey_tables hm r)
  · exact congrArg (·, m.tables) (Database.entriesOf_tables hm id)
  · have htakes : Database.takesLimit limit = true := decide_eq_true hlimit
    rw [Database.answer, htakes, Bool.or_true, if_pos rfl, Database.recentEntries_tables hm]
    rfl
  · exact congrArg (·, m.tables) (Database.entriesUpTo_tables hm id cutoff)
  · exact congrArg (·, m.tables) (Database.findRecord_tables m id)
  · rw [Database.answer, Database.listRecords_tables hm]
    simp only [Database.RecordRow.ofReconciliation, Id.beq_uuid]
    rfl
  · rw [Database.answer, Database.listRecords_tables hm, List.filter_true]
    rfl

end Daybook
