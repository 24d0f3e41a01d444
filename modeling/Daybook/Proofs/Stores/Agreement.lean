import Daybook.Proofs.Stores.Ready
import Daybook.Proofs.Stores.Writes

/-!
A store in memory and a database agree. Put to the one and to the other, a request is answered alike,
and the tables are the rows of the store in memory again (`Memory.serves_request`). Main statement: so
it is with any list of requests, from an empty ledger on, as long as ids and moments are new and the
figures of records fit their columns (`stores_agree`).
-/

namespace Daybook

theorem Alike.map {α β : Type} {r r' : Except Error α} (f : α → β) (h : Alike r r') :
    Alike (r.map f) (r'.map f) := by
  cases h with
  | same r => exact .same _
  | refused kind => exact .refused kind

namespace Memory

/-- The store in memory and the database with its rows answer a script alike, have the same rows
afterwards, and are ready for what is ahead. -/
structure Serves {α : Type} (m : Memory) (b : Backend Database Database.Transaction)
    (ahead : List Stamp) (script : ∀ Draft : Type, Script Draft (Except Error α)) : Prop where
  alike : Alike ((script _).ending Memory.backend m).1 ((script _).ending b m.tables).1
  tables : ((script _).ending b m.tables).2 = ((script _).ending Memory.backend m).2.tables
  ready : ((script _).ending Memory.backend m).2.Ready ahead

variable {α β : Type} {b : Backend Database Database.Transaction} {m m' : Memory} {ahead : List Stamp}
  {script rest : ∀ Draft : Type, Script Draft (Except Error α)}

namespace Serves

theorem intro {r r' : Except Error α} (hmemory : (script _).ending Memory.backend m = (r, m'))
    (hdatabase : (script _).ending b m.tables = (r', m'.tables)) (halike : Alike r r')
    (hready : m'.Ready ahead) : m.Serves b ahead script := by
  refine ⟨?_, ?_, ?_⟩
  · rw [hmemory, hdatabase]
    exact halike
  · rw [hmemory, hdatabase]
  · rw [hmemory]
    exact hready

theorem map (f : α → β) (h : m.Serves b ahead script) :
    m.Serves b ahead fun Draft => (script Draft).map (Except.map f) := by
  refine ⟨?_, ?_, ?_⟩
  · rw [Script.ending_map, Script.ending_map]
    exact h.alike.map f
  · rw [Script.ending_map, Script.ending_map]
    exact h.tables
  · rw [Script.ending_map]
    exact h.ready

end Serves

variable (hb : Database.Honours b)

include hb

/-- What only reads is answered the same way. -/
theorem Decides.serves (h : m.Decides script) (hm : m.Ready ahead) : m.Serves b ahead script := by
  obtain ⟨r, hr⟩ := h
  exact .intro (hr m.reads) (hr (hm.sound.reads hb)) (.same r) hm

/-! ### Accounts and operations -/

theorem serves_insertAccount (h : m.Ready ahead) (a : Account) :
    m.Serves b ahead fun _ => (Request.insertAccount a).script := by
  have hmemory : m.answer (.insertAccount a) = m.changed ((m.insertAccount a).map ((), ·)) := rfl
  have hdatabase : m.tables.answer (.insertAccount a) =
      m.tables.changed ((m.tables.insertAccount (.ofAccount a)).map ((), ·)) := rfl
  rw [Memory.insertAccount] at hmemory
  rw [Database.insertAccount_tables h.sound] at hdatabase
  cases hknown : m.accounts.contains a.id with
  | true =>
      simp only [hknown, if_true] at hmemory hdatabase
      exact .intro (Script.ending_call (backend_answers hmemory))
        (Script.ending_call (c := .insertAccount a) (hb rfl hdatabase)) (.refused rfl) h
  | false =>
      simp only [hknown, Bool.false_eq_true, if_false] at hmemory hdatabase
      exact .intro (Script.ending_call (backend_answers hmemory))
        (Script.ending_call (c := .insertAccount a) (hb rfl hdatabase)) (.same _) (h.insertAccount hknown)

theorem serves_deleteAccount (h : m.Ready ahead) (id : AccountId) :
    m.Serves b ahead fun _ => (Request.deleteAccount id).script := by
  have hmemory : m.answer (.deleteAccount id) = m.changed (m.deleteAccount id) := rfl
  have hdatabase : m.tables.answer (.deleteAccount id) =
      m.tables.changed (m.tables.deleteAccount id.uuid) := rfl
  rw [Database.deleteAccount_tables h.sound] at hdatabase
  rw [Memory.deleteAccount] at hmemory hdatabase
  cases hused : m.usesAccount id with
  | true =>
      simp only [hused, if_true] at hmemory hdatabase
      exact .intro (Script.ending_call (backend_answers hmemory))
        (Script.ending_call (c := .deleteAccount id) (hb rfl hdatabase)) (.same _) h
  | false =>
      simp only [hused, Bool.false_eq_true, if_false] at hmemory hdatabase
      exact .intro (Script.ending_call (backend_answers hmemory))
        (Script.ending_call (c := .deleteAccount id) (hb rfl hdatabase)) (.same _) (h.deleteAccount hused)

theorem serves_deleteOperation (h : m.Ready ahead) (id : OperationId) :
    m.Serves b ahead fun _ => (Request.deleteOperation id).script := by
  have hmemory : m.answer (.deleteOperation id) = m.changed (m.deleteOperation id) := rfl
  have hdatabase : m.tables.answer (.deleteOperation id) =
      m.tables.changed (m.tables.deleteOperation id.uuid) := rfl
  rw [Database.deleteOperation_tables h.sound] at hdatabase
  rw [Memory.deleteOperation] at hmemory hdatabase
  cases hused : m.usesOperation id with
  | true =>
      simp only [hused, if_true] at hmemory hdatabase
      exact .intro (Script.ending_call (backend_answers hmemory))
        (Script.ending_call (c := .deleteOperation id) (hb rfl hdatabase)) (.same _) h
  | false =>
      cases hop : m.operations.get? id with
      | some op =>
          simp only [hused, hop, Bool.false_eq_true, if_false] at hmemory hdatabase
          exact .intro (Script.ending_call (backend_answers hmemory))
            (Script.ending_call (c := .deleteOperation id) (hb rfl hdatabase)) (.same _)
            (h.deleteOperation hused hop)
      | none =>
          simp only [hused, hop, Bool.false_eq_true, if_false] at hmemory hdatabase
          exact .intro (Script.ending_call (backend_answers hmemory))
            (Script.ending_call (c := .deleteOperation id) (hb rfl hdatabase)) (.same _) h

/-! ### Submissions and reconciliations -/

theorem serves_process (q : Submission)
    (h : m.Ready ([q.stamps.operation, q.stamps.firstEntry, q.stamps.secondEntry] ++ ahead)) :
    m.Serves b ahead fun _ => q.script := by
  rcases q.leads m with hdecides | ⟨o, p, hbooks, hfree, hclear, hleads⟩
  · exact hdecides.serves hb h.skip
  have hnew : m.operations.contains p.operation.id = false := by
    rw [hbooks.id_eq]
    exact h.operations q.stamps.operation List.mem_cons_self
  have hfresh : m.operations.get? q.operationId = none := by
    rwa [hbooks.id_eq, Table.contains_eq_false_iff] at hnew
  have hstamps : (p.entries.map Entry.stamp).Sublist
      [q.stamps.operation, q.stamps.firstEntry, q.stamps.secondEntry] :=
    hbooks.stamps.trans (List.sublist_cons_self _ _)
  have hpresent : ∀ e ∈ p.entries, m.accounts.contains e.account = true := fun e he =>
    hbooks.present hclear he
  have hreference : m.findByReference p.operation.reference = none := by
    rw [hbooks.reference_eq]
    exact hfree
  have hspaced : Spaced Entry.stamp p.entries :=
    List.pairwise_map.1 ((List.pairwise_append.1 h.apart).1.sublist hstamps)
  have hapart : ∀ e ∈ p.entries, ∀ e' ∈ m.entries, e'.stamp.Apart e.stamp := fun e he =>
    h.entries _ (List.mem_append_left _ (hstamps.subset (List.mem_map_of_mem he)))
  have hready : (m.post p).Ready ahead :=
    h.post hbooks.proper ⟨q.stamps.operation, List.mem_cons_self, hbooks.id_eq⟩ hstamps hreference hpresent
  have hmemory : q.script.ending Memory.backend m = (.ok p.operation, m.post p) := by
    refine (q.run_eq_verdict h.sound.indexed hfresh).trans ?_
    simp only [Submission.verdict, hbooks.checked, hfree, hclear, hbooks.entries, ← hbooks.operation]
  have hdatabase : q.script.ending b m.tables = (.ok p.operation, (m.post p).tables) :=
    (hleads (h.sound.reads hb)).trans
      (Submission.write_tables hb hbooks h.sound hnew hreference hpresent hspaced hapart)
  exact .intro hmemory hdatabase (.same _) hready

/-- A reconciliation whose record fits the columns, if it comes to one. -/
theorem serves_reconcile {stamp : Stamp} {currency : Currency} {account : AccountId} {expected : Decimal}
    (h : m.Ready ([stamp] ++ ahead))
    (hstorable : ∀ record, ((Reconciliation.reconcile stamp currency account expected).ending
      Memory.backend m).1 = .ok record → record.Storable) :
    m.Serves b ahead fun _ => Reconciliation.reconcile stamp currency account expected := by
  rcases Reconciliation.leads m stamp currency account expected with
    ⟨e, hleads⟩ | ⟨calculated, record, -, hpresent, -, hcompare, hleads⟩
  · exact Decides.serves hb ⟨.error e, hleads⟩ h.skip
  obtain ⟨rfl, rfl, -⟩ := Reconciliation.of_compare hcompare
  have hnew : ∀ r ∈ m.reconciliations, r.id ≠ record.id := fun r hr hid =>
    (h.records record.stamp List.mem_cons_self r hr).1 (congrArg Id.uuid hid)
  have hmemory : m.answer (.insertReconciliation record) =
      (.ok (), { m with reconciliations := m.reconciliations ++ [record] }) := by
    rcases m.answer_insertReconciliation record with ⟨-, -, hkept⟩ | ⟨hknown, -⟩
    · exact hkept
    · obtain ⟨r, hr, hid⟩ := hknown hpresent
      exact absurd hid (hnew r hr)
  have hdatabase : m.tables.answer (.insertReconciliation record) =
      (.ok (), tables { m with reconciliations := m.reconciliations ++ [record] }) := by
    rw [Database.answer, Database.insertRecord_tables h.sound hpresent hnew]
    rfl
  have hkeep : (Reconciliation.reconcile record.stamp currency record.account expected).ending
      Memory.backend m = (.ok record, { m with reconciliations := m.reconciliations ++ [record] }) :=
    (hleads m.reads).trans (Script.ending_call (backend_answers hmemory))
  have hpermits : Database.permits (.insertReconciliation record) = true :=
    decide_eq_true (Database.RecordRow.insertable_ofReconciliation (hstorable record (by rw [hkeep])))
  exact .intro hkeep
    ((hleads (h.sound.reads hb)).trans (Script.ending_call (hb hpermits hdatabase))) (.same _)
    (h.insertReconciliation hpresent)

/-! ### Requests -/

/-- **A request is served alike.** -/
theorem serves_request {q : Request} (h : m.Ready (q.stamps ++ ahead)) (hlimited : q.Limited)
    (hstorable : ∀ record, (q.script.ending Memory.backend m).1 = .ok (.record record) → record.Storable) :
    m.Serves b ahead fun _ => q.script := by
  cases q with
  | insertAccount a => exact serves_insertAccount hb h a
  | deleteAccount id => exact serves_deleteAccount hb h id
  | deleteOperation id => exact serves_deleteOperation hb h id
  | process q => exact (serves_process hb q h).map _
  | balance now currency account =>
      exact ((Balance.decides_current m now currency account).serves hb h).map _
  | balanceAt cutoff currency account =>
      exact ((Balance.decides_atMoment m cutoff currency account).serves hb h).map _
  | reconcile stamp currency account expected =>
      refine (serves_reconcile hb h fun record hrecord => hstorable record ?_).map _
      rw [Request.script, Script.ending_map, hrecord]
      rfl
  | history account => exact ((Reconciliation.decides_history m account).serves hb h).map _
  | dashboard currency limit => exact ((Reconciliation.decides_summary m currency limit).serves hb h).map _
  | analyze id limit => exact ((Reconciliation.decides_analyze m id hlimited).serves hb h).map _

/-- From one request to all of them. -/
theorem Ready.serve {requests : List Request} (h : m.Ready (requests.flatMap Request.stamps))
    (hlimited : ∀ q ∈ requests, q.Limited)
    (hstorable : ∀ record, .ok (.record record) ∈ (serve Memory.backend requests m).1 → record.Storable) :
    List.Forall₂ Alike (serve Memory.backend requests m).1 (serve b requests m.tables).1 ∧
      (serve b requests m.tables).2 = (serve Memory.backend requests m).2.tables := by
  induction requests generalizing m with
  | nil => exact ⟨.nil, rfl⟩
  | cons q requests ih =>
      obtain ⟨hq, hrequests⟩ := List.forall_mem_cons.1 hlimited
      rw [List.flatMap_cons] at h
      obtain ⟨halike, htables, hready⟩ := serves_request hb h hq fun record hrecord =>
        hstorable record (List.mem_cons.2 (Or.inl hrecord.symm))
      obtain ⟨hanswers, hstores⟩ := ih hready hrequests fun record hrecord =>
        hstorable record (List.mem_cons_of_mem _ hrecord)
      rw [← htables] at hanswers hstores
      exact ⟨.cons halike hanswers, hstores⟩

end Memory

/-- **A store in memory and a database agree.** Put to both from an empty ledger on, any requests are
answered alike, one by one, and in the end the tables have the rows of the store in memory. No two of
the stamps may share an id or a moment, as none do where both increase; a limit must be one that can be
put to the database; and the figures of the records that are made must be in range. -/
theorem stores_agree (b : Backend Database Database.Transaction) (hb : Database.Honours b)
    (requests : List Request) (hstamps : (requests.flatMap Request.stamps).Pairwise Stamp.Apart)
    (hlimited : ∀ q ∈ requests, q.Limited)
    (hstorable : ∀ record,
      .ok (.record record) ∈ (serve Memory.backend requests .empty).1 → record.Storable) :
    let memory := serve Memory.backend requests .empty
    let database := serve b requests (.empty .typed)
    List.Forall₂ Alike memory.1 database.1 ∧ database.2 = memory.2.tables :=
  (Memory.Ready.empty hstamps).serve hb hlimited hstorable

/-! ### A day at the ledger -/

/-- An account is opened, and opened again; a deposit is booked twice under one reference and
reconciled twice, once as expected and once not; the results are looked at; and what is in use is not
deleted. -/
def dayAtTheLedger : List Request :=
  let stamp (n : Nat) : Stamp := ⟨⟨BitVec.ofNat 128 n⟩, .ofNanos n⟩
  let account := Submission.depositAccount
  let ten : Decimal := (Decimal.ofNat? 10).getD .zero
  [.insertAccount account, .insertAccount account,
    .process (.counted (.deposit "R-1" account.id ten) 10),
    .process (.counted (.deposit " R-1 " account.id ten) 20),
    .balance (.ofNanos 30) .brl account.id, .balanceAt (.ofNanos 5) .brl account.id,
    .reconcile (stamp 31) .brl account.id ten, .reconcile (stamp 32) .brl account.id .zero,
    .history account.id, .dashboard .brl 5, .analyze ⟨⟨32⟩⟩ 5,
    .deleteAccount account.id, .deleteOperation ⟨⟨10⟩⟩, .deleteAccount ⟨⟨2⟩⟩]

/-- The record that a request was answered with, if it was. -/
def recordOf? : Except Error Response → Option Reconciliation
  | .ok (.record r) => some r
  | _ => none

theorem stores_agree_dayAtTheLedger :
    let memory := serve Memory.backend dayAtTheLedger .empty
    let database := serve Database.checked dayAtTheLedger (.empty .typed)
    (memory.1.filterMap recordOf?).map (·.status) = [.matching, .mismatch] ∧
      List.Forall₂ Alike memory.1 database.1 ∧ database.2 = memory.2.tables := by
  intro memory database
  have hstamps : (dayAtTheLedger.flatMap Request.stamps).Pairwise Stamp.Apart := by decide +kernel
  have hlimited : ∀ q ∈ dayAtTheLedger, q.Limited := by
    simp [dayAtTheLedger, Request.Limited, twos]
  have hrecords : ∀ r ∈ memory.1.filterMap recordOf?, r.Storable := by decide +kernel
  have hstorable : ∀ record, .ok (.record record) ∈ memory.1 → record.Storable := fun record hrecord =>
    hrecords record (List.mem_filterMap.2 ⟨_, hrecord, rfl⟩)
  refine ⟨by decide +kernel, ?_⟩
  exact stores_agree Database.checked Database.honours_checked dayAtTheLedger hstamps hlimited hstorable

end Daybook
