import Daybook.Proofs.Stores.Tables

/-!
What writes do to the tables. Inserting a row where there is none with its id, and deleting one, does
to the tables what the store in memory does to its rows. A posting is written in a transaction whose
rows are those of the draft (`Submission.write_tables`); it gets through when its reference is free,
its accounts are there and its stamps are new.
-/

namespace Daybook

namespace Database

variable {m : Memory}

/-! ### Accounts and operations -/

theorem insertAccount_tables (hm : m.Sound) (a : Account) :
    m.tables.insertAccount (.ofAccount a) =
      if m.accounts.contains a.id then .error violation
      else .ok (Memory.tables { m with accounts := m.accounts.insert a.id a }) := by
  show (if m.tables.hasAccount a.id.uuid then Except.error violation
    else Except.ok { m.tables with accounts := m.tables.accounts ++ [AccountRow.ofAccount a] }) = _
  rw [hasAccount_tables hm]
  split_ifs with hknown
  · rfl
  · simp only [Memory.tables, Table.values_insert (Bool.eq_false_iff.2 hknown), List.map_append,
      List.map_cons, List.map_nil]

/-- What is used is there, so it makes no difference which of the two is asked first. -/
theorem contains_of_usesAccount (hm : m.Sound) {id : AccountId} (h : m.usesAccount id = true) :
    m.accounts.contains id = true := by
  rcases Bool.or_eq_true_iff.1 h with h | h
  · obtain ⟨e, he, hid⟩ := List.any_eq_true.1 h
    exact beq_iff_eq.1 hid ▸ (hm.intact.entries he).2
  · obtain ⟨r, hr, hid⟩ := List.any_eq_true.1 h
    exact beq_iff_eq.1 hid ▸ hm.intact.records hr

theorem tables_deleteAccount (hm : m.Sound) (id : AccountId) :
    Memory.tables { m with accounts := m.accounts.erase id } =
      { m.tables with accounts := m.tables.accounts.filter (·.id != id.uuid) } := by
  have hother : ∀ a : Account, ((AccountRow.ofAccount a).id != id.uuid) = decide (a.id ≠ id) :=
    fun a => Id.bne_uuid a.id id
  simp only [Memory.tables, hm.accounts.values_erase, List.filter_map, Function.comp_def, hother]

theorem deleteAccount_tables (hm : m.Sound) (id : AccountId) :
    m.tables.deleteAccount id.uuid = (m.deleteAccount id).map fun r => (r.1, r.2.tables) := by
  show (if m.tables.hasAccount id.uuid then
      if m.tables.entries.any (·.account == id.uuid) || m.tables.records.any (·.account == id.uuid) then
        Except.error (StoreError.referenced "account" id.toText)
      else Except.ok (true, { m.tables with accounts := m.tables.accounts.filter (·.id != id.uuid) })
    else Except.ok (false, m.tables)) = _
  rw [hasAccount_tables hm, usesAccount_tables, ← tables_deleteAccount hm, Memory.deleteAccount]
  cases hused : m.usesAccount id with
  | true =>
      rw [contains_of_usesAccount hm hused]
      rfl
  | false =>
      cases hthere : m.accounts.contains id with
      | true => rfl
      | false =>
          simp only [Bool.false_eq_true, if_false, Except.map, Table.erase_of_free hthere]

theorem tables_deleteOperation (hm : m.Sound) (id : OperationId) (owners : Table Reference OperationId) :
    Memory.tables { m with operations := m.operations.erase id, owners := owners } =
      { m.tables with operations := m.tables.operations.filter (·.id != id.uuid) } := by
  have hother : ∀ op : Operation, ((OperationRow.ofOperation op).id != id.uuid) = decide (op.id ≠ id) :=
    fun op => Id.bne_uuid op.id id
  simp only [Memory.tables, hm.operations.values_erase, List.filter_map, Function.comp_def, hother]

theorem deleteOperation_tables (hm : m.Sound) (id : OperationId) :
    m.tables.deleteOperation id.uuid = (m.deleteOperation id).map fun r => (r.1, r.2.tables) := by
  show (if m.tables.operations.any (·.id == id.uuid) then
      if m.tables.entries.any (·.operation == id.uuid) then
        Except.error (StoreError.referenced "operation" id.toText)
      else Except.ok (true, { m.tables with operations := m.tables.operations.filter (·.id != id.uuid) })
    else Except.ok (false, m.tables)) = _
  rw [hasOperation_tables hm, usesOperation_tables, Memory.deleteOperation, Table.contains]
  cases hused : m.usesOperation id with
  | true =>
      obtain ⟨e, he, hid⟩ := List.any_eq_true.1 hused
      have hthere : (m.operations.get? id).isSome = true := beq_iff_eq.1 hid ▸ (hm.intact.entries he).1
      rw [hthere]
      rfl
  | false =>
      cases hop : m.operations.get? id with
      | some op =>
          simp only [Bool.false_eq_true, if_false, Except.map, tables_deleteOperation hm, Option.isSome_some,
            if_true]
      | none => rfl

/-! ### Records -/

theorem insertRecord_tables (hm : m.Sound) {r : Reconciliation}
    (hpresent : m.accounts.contains r.account = true) (hnew : ∀ r' ∈ m.reconciliations, r'.id ≠ r.id) :
    m.tables.insertRecord (.ofReconciliation r) =
      .ok (Memory.tables { m with reconciliations := m.reconciliations ++ [r] }) := by
  have hunknown : m.tables.records.any (·.id == r.id.uuid) = false := by
    rw [Memory.tables, List.any_map, List.any_eq_false]
    intro r' hr' hid
    exact hnew r' hr' (beq_iff_eq.1 ((Id.beq_uuid r'.id r.id).symm.trans hid))
  show (if m.tables.records.any (·.id == r.id.uuid) || !m.tables.hasAccount r.account.uuid then
    Except.error violation
    else Except.ok { m.tables with records := m.tables.records ++ [RecordRow.ofReconciliation r] }) = _
  rw [hunknown, hasAccount_tables hm, hpresent]
  simp only [Memory.tables, List.map_append, List.map_cons, List.map_nil]
  rfl

/-! ### Transactions -/

theorem distinctIds_of_pairwise {rows : List EntryRow} (h : rows.Pairwise fun r r' => r.id ≠ r'.id) :
    distinctIds rows = true := by
  induction rows with
  | nil => rfl
  | cons r rows ih =>
      obtain ⟨hr, hrows⟩ := List.pairwise_cons.1 h
      have hnone : rows.any (·.id == r.id) = false :=
        List.any_eq_false.2 fun r' hr' hid => hr r' hr' (beq_iff_eq.1 hid).symm
      rw [distinctIds, hnone, ih hrows]
      rfl

/-- A transaction that is still open, with one operation. -/
def Transaction.one (op : Operation) (es : List Entry) : Transaction :=
  ⟨[.ofOperation op], [], es.map .ofEntry, false⟩

theorem insertOperation_tables (hm : m.Sound) (op : Operation)
    (hfree : m.findByReference op.reference = none)
    (hnew : m.operations.contains op.id = false) :
    m.tables.insertOperation .empty (.ofOperation op) = .ok (.one op []) := by
  have hkey : m.tables.operations.any (·.key == op.reference.text) = false := by
    rw [any_key hm, hfree]
    rfl
  have hid : m.tables.operations.any (·.id == op.id.uuid) = false := by
    rw [hasOperation_tables hm, hnew]
  show (if (m.tables.operations ++ []).any (·.key == op.reference.text) then
      Except.error (StoreError.duplicateReference op.reference.text)
    else if (m.tables.operations ++ []).any (·.id == op.id.uuid) then Except.error violation
    else Except.ok (Transaction.one op [])) = _
  rw [List.append_nil, hkey, hid]
  rfl

theorem insertEntries_tables (hm : m.Sound) (op : Operation) {es : List Entry} (hes : es ≠ [])
    (hbelongs : ∀ e ∈ es, e.operation = op.id)
    (hpresent : ∀ e ∈ es, m.accounts.contains e.account = true) (hspaced : Spaced Entry.stamp es)
    (hnew : ∀ e ∈ es, ∀ e' ∈ m.entries, e'.stamp.Apart e.stamp) :
    m.tables.insertEntries (.one op []) (es.map .ofEntry) = .ok (.one op es) := by
  have hempty : (es.map EntryRow.ofEntry).isEmpty = false := by
    cases es with
    | nil => exact absurd rfl hes
    | cons e es => rfl
  have hparents : (es.map EntryRow.ofEntry).all (m.tables.hasParents (.one op [])) = true := by
    rw [List.all_map, List.all_eq_true]
    intro e he
    have haccount : m.tables.hasAccount e.account.uuid = true := by
      rw [hasAccount_tables hm, hpresent e he]
    have hoperation : (m.tables.operations ++ [OperationRow.ofOperation op]).any
        (·.id == e.operation.uuid) = true := by
      rw [hbelongs e he]
      exact List.any_eq_true.2 ⟨.ofOperation op, by simp, beq_self_eq_true _⟩
    exact Bool.and_eq_true_iff.2 ⟨hoperation, haccount⟩
  have hfree : (es.map EntryRow.ofEntry).any (fun r => (m.tables.entries ++ []).any (·.id == r.id)) = false := by
    rw [List.append_nil, Memory.tables, List.any_map, List.any_eq_false]
    intro e he hany
    obtain ⟨r, hr, hid⟩ := List.any_eq_true.1 hany
    obtain ⟨e', he', rfl⟩ := List.mem_map.1 hr
    exact (hnew e he e' he').1 (beq_iff_eq.1 hid)
  have hdistinct : distinctIds (es.map EntryRow.ofEntry) = true :=
    distinctIds_of_pairwise (List.pairwise_map.2 (hspaced.imp fun h => h.1))
  show (if (es.map EntryRow.ofEntry).isEmpty then Except.ok (Transaction.one op [])
    else if (es.map EntryRow.ofEntry).all (m.tables.hasParents (.one op [])) &&
        !(es.map EntryRow.ofEntry).any (fun r => (m.tables.entries ++ []).any (·.id == r.id)) &&
          distinctIds (es.map EntryRow.ofEntry) then
      Except.ok (Transaction.one op es)
    else Except.error violation) = _
  rw [hempty, hparents, hfree, hdistinct]
  rfl

/-- The row of the operation gets the columns that can change. -/
theorem updateOperation_tables (m : Memory) (es : List Entry) {op op' : Operation} {now : Time}
    (h : op.markProcessed now = .ok op') :
    m.tables.updateOperation (.one op es) (.ofOperation op') = .ok (.one op' es) := by
  have hop : op' = { op with status := .processed, processedAt := some now, failureReason := none } := by
    rw [Operation.markProcessed, Operation.move] at h
    split_ifs at h
    exact (Except.ok.inj h).symm
  have hrow : (StatusChange.ofOperation op').apply (.ofOperation op) = .ofOperation op' := by
    rw [hop]
    exact if_pos rfl
  have hthere : [OperationRow.ofOperation op].any (·.id == op'.id.uuid) = true := by
    rw [hop]
    exact List.any_eq_true.2 ⟨_, List.mem_singleton_self _, beq_self_eq_true _⟩
  refine (if_pos hthere).trans ?_
  exact congrArg (fun row => Except.ok (Transaction.mk [row] [] (es.map .ofEntry) false)) hrow

theorem commit_tables {p : Posting} (hnew : m.operations.contains p.operation.id = false) :
    m.tables.commit (.one p.operation p.entries) =
      .ok ({ Transaction.empty with committed := true }, (m.post p).tables) := by
  have hrows : (m.post p).tables = { m.tables with
      operations := m.tables.operations ++ [.ofOperation p.operation]
      entries := m.tables.entries ++ p.entries.map .ofEntry } := by
    simp only [Memory.tables, Memory.post, Table.values_insert hnew, List.map_append, List.map_cons,
      List.map_nil]
  rw [hrows]
  rfl

end Database

/-- A new record has what was given, and the difference that comes of it. -/
theorem Reconciliation.of_compare {stamp : Stamp} {account : AccountId} {expected calculated : Money}
    {r : Reconciliation} (h : compare stamp account expected calculated = .ok r) :
    r.stamp = stamp ∧ r.account = account ∧ r.expected = expected ∧ r.calculated = calculated ∧
      expected.sub calculated = .ok r.difference := by
  rw [compare] at h
  split at h
  · rename_i hdifference
    cases h
    exact ⟨rfl, rfl, rfl, rfl, hdifference⟩
  · cases h

/-! ### Postings -/

theorem Entry.stamp_of_make {stamp : Stamp} {operation : OperationId} {account : AccountId}
    {amount : Money} {direction : Direction} {purpose : Purpose} {source : String} {e : Entry}
    (h : make stamp operation account amount direction purpose source = .ok e) : e.stamp = stamp := by
  have hrow := eq_of_make h
  have hid : e.id.uuid = stamp.id := congrArg Database.EntryRow.id hrow
  have htime : e.createdAt = stamp.time := congrArg Database.EntryRow.createdAt hrow
  rw [Entry.stamp, hid, htime]

theorem Entry.stamp_of_credit {stamp : Stamp} {operation : OperationId} {account : AccountId}
    {amount : Money} {purpose : Purpose} {source : String} {e : Entry}
    (h : credit stamp operation account amount purpose source = .ok e) : e.stamp = stamp := by
  rw [credit] at h
  split_ifs at h
  exact stamp_of_make h

theorem Entry.stamp_of_debit {stamp : Stamp} {operation : OperationId} {account : AccountId}
    {amount : Money} {purpose : Purpose} {source : String} {e : Entry}
    (h : debit stamp operation account amount purpose source = .ok e) : e.stamp = stamp := by
  rw [debit] at h
  split_ifs at h
  exact stamp_of_make h

/-- The sides of an order have the stamps for them, in turn. -/
theorem Booking.stamps_of_sides {stamps : BookingStamps} {id : OperationId} {order : Order}
    {settlement : Option AccountId} {es : List Entry} (h : sides stamps id order settlement = .ok es) :
    es.map Entry.stamp = [stamps.firstEntry, stamps.secondEntry].take es.length := by
  have hone : ∀ {e : Entry}, e.stamp = stamps.firstEntry →
      [e].map Entry.stamp = [stamps.firstEntry, stamps.secondEntry].take [e].length := by
    intro e he
    rw [List.map_singleton, he]
    rfl
  have htwo : ∀ {e e' : Entry}, e.stamp = stamps.firstEntry → e'.stamp = stamps.secondEntry →
      [e, e'].map Entry.stamp = [stamps.firstEntry, stamps.secondEntry].take [e, e'].length := by
    intro e e' he he'
    rw [List.map_cons, List.map_singleton, he, he']
    rfl
  rw [sides] at h
  split at h
  · obtain ⟨main, hmain, h⟩ := except_bind_eq_ok.1 h
    split at h
    · cases h
      exact hone (Entry.stamp_of_credit hmain)
    · obtain ⟨other, hother, h⟩ := except_bind_eq_ok.1 h
      cases h
      exact htwo (Entry.stamp_of_credit hmain) (Entry.stamp_of_debit hother)
  · obtain ⟨main, hmain, h⟩ := except_bind_eq_ok.1 h
    split at h
    · cases h
      exact hone (Entry.stamp_of_debit hmain)
    · obtain ⟨other, hother, h⟩ := except_bind_eq_ok.1 h
      cases h
      exact htwo (Entry.stamp_of_debit hmain) (Entry.stamp_of_credit hother)
  · obtain ⟨out, hout, h⟩ := except_bind_eq_ok.1 h
    obtain ⟨into, hinto, h⟩ := except_bind_eq_ok.1 h
    cases h
    exact htwo (Entry.stamp_of_debit hout) (Entry.stamp_of_credit hinto)

namespace Submission

variable {q : Submission} {o : Order} {p : Posting} {m : Memory}

theorem Books.stamps_eq (h : q.Books o p) :
    p.entries.map Entry.stamp = [q.stamps.firstEntry, q.stamps.secondEntry].take p.entries.length := by
  obtain ⟨es, hes, hentries⟩ := except_bind_eq_ok.1 h.entries
  split_ifs at hentries
  cases hentries
  exact Booking.stamps_of_sides hes

theorem Books.stamps (h : q.Books o p) :
    (p.entries.map Entry.stamp).Sublist [q.stamps.firstEntry, q.stamps.secondEntry] := by
  rw [h.stamps_eq]
  exact List.take_sublist _ _

theorem Books.isStorable (h : q.Books o p) {e : Entry} (he : e ∈ p.entries) :
    e.amount.isStorable = true := by
  have hstorable := (order_valid h.checked).storable
  rcases Movement.amount_of_mem_lines (h.line_mem he) with hamount | hamount
  · rwa [show e.amount = o.amount from hamount]
  · rw [show e.amount = o.amount.negate from hamount]
    exact hstorable

/-- **A posting is written to the tables as it is to the rows.** -/
theorem write_tables {b : Backend Database Database.Transaction} (hb : Database.Honours b)
    (h : q.Books o p) (hm : m.Sound)
    (hnew : m.operations.contains p.operation.id = false)
    (hfree : m.findByReference p.operation.reference = none)
    (hpresent : ∀ e ∈ p.entries, m.accounts.contains e.account = true)
    (hspaced : Spaced Entry.stamp p.entries)
    (hapart : ∀ e ∈ p.entries, ∀ e' ∈ m.entries, e'.stamp.Apart e.stamp) :
    (Booking.write (q.started o) q.stamps.completed p.entries).ending b m.tables =
      (.ok p.operation, (m.post p).tables) := by
  have hid : (q.started o).id = p.operation.id := h.id_eq.symm
  have hreference : (q.started o).reference = p.operation.reference := h.reference_eq.symm
  have hstarted : Database.permits (.insertOperation .empty (q.started o)) = true :=
    decide_eq_true ((Database.OperationRow.admissible_ofOperation_iff _).2 ⟨nofun, fun h => absurd rfl h⟩)
  have hentries : Database.permits (.insertEntries (.one (q.started o) []) p.entries) = true :=
    List.all_eq_true.2 fun e he =>
      decide_eq_true (Database.EntryRow.insertable_ofEntry (h.isStorable he))
  have hdated : (Database.OperationRow.ofOperation p.operation).Dated := by
    rw [h.operation]
    exact ⟨fun _ => nofun, fun _ => rfl⟩
  have hprocessed : Database.permits
      (.updateOperation (.one (q.started o) p.entries) p.operation) = true := decide_eq_true hdated
  have hinsert := Database.insertOperation_tables hm (q.started o) (hreference ▸ hfree) (hid ▸ hnew)
  have hwrite := Database.insertEntries_tables hm (q.started o) h.proper.nonempty
    (fun e he => (h.proper.belongs he).trans hid.symm) hpresent hspaced hapart
  have hupdate := Database.updateOperation_tables m p.entries h.markProcessed
  have hcommit : m.tables.answer (.commit (.one p.operation p.entries)) =
      (.ok { Database.Transaction.empty with committed := true }, (m.post p).tables) := by
    rw [Database.answer, Database.commit_tables hnew]
    rfl
  calc (Booking.write (q.started o) q.stamps.completed p.entries).ending b m.tables
    _ = (Booking.writeOperation (q.started o) q.stamps.completed p.entries
          .empty).ending b m.tables :=
        Script.ending_call (c := .begin) (hb rfl rfl)
    _ = (Booking.writeEntries (q.started o) q.stamps.completed p.entries
          (.one (q.started o) [])).ending b m.tables :=
        Script.ending_call (hb hstarted (congrArg (·, m.tables) hinsert))
    _ = (Booking.complete (q.started o) q.stamps.completed p.entries.length
          (.one (q.started o) p.entries)).ending b m.tables :=
        Script.ending_call (hb hentries (congrArg (·, m.tables) hwrite))
    _ = (Booking.commit p.operation p.entries.length
          (.one p.operation p.entries)).ending b m.tables := by
        rw [Booking.complete, h.markProcessed]
        exact Script.ending_call (hb hprocessed (congrArg (·, m.tables) hupdate))
    _ = (.ok p.operation, (m.post p).tables) :=
        Script.ending_call (hb rfl hcommit)

end Submission
end Daybook
