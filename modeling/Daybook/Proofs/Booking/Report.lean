import Daybook.Proofs.Booking.Atomicity

/-!
What a submission reports when it runs alone. A command that is malformed is not reported at all. Any
other is reported as received, and then follows what became of it: the operation that has the
reference, the account that is missing, or the entries and the operation that were booked. The events
are taken together with the result and with the store afterwards (`Submission.run_ends`).
-/

namespace Daybook

/-- The store in memory adds no events to those of a script. -/
theorem Memory.run_call {α : Type} {m m' : Memory} {c : Call MemoryDraft} {reply : c.Reply}
    (h : m.answer c = (reply, m')) (next : c.Reply → Script MemoryDraft α) :
    (Script.call c next).run backend m = (next reply).run backend m' := by
  simp only [Script.run, backend, h, List.nil_append]

namespace Order

def received (o : Order) : Event :=
  .received o.reference o.movement.kind o.amount o.source

/-- An account of the movement that is missing is reported; other obstacles are not. -/
def complaint (o : Order) : Error → List Event
  | .accountNotFound id => [.unknownAccount o.reference id]
  | _ => []

end Order

namespace Submission

variable {q : Submission} {o : Order} {p : Posting} {m : Memory}

/-- How a submission ends that runs alone, with all its calls heard. -/
inductive Ends (q : Submission) (m : Memory) : Outcome Memory Booking.Result → Prop
  | malformed {e : Error} (checked : q.order = .error e) : Ends q m ⟨.error e, [], m⟩
  | known {o : Order} {op : Operation} (checked : q.order = .ok o)
      (found : m.findByReference o.reference = some op) :
      Ends q m ⟨.ok op, [o.received, .duplicate op.id o.reference op.status], m⟩
  | obstructed {o : Order} {e : Error} (checked : q.order = .ok o)
      (free : m.findByReference o.reference = none)
      (obstacle : q.obstacle m.accounts o = some e) :
      Ends q m ⟨.error e, o.received :: o.complaint e, m⟩
  | booked {o : Order} {p : Posting} (books : q.Books o p)
      (free : m.findByReference o.reference = none) (clear : q.obstacle m.accounts o = none) :
      Ends q m ⟨.ok p.operation, [o.received, .entriesBuilt q.operationId p.entries.length,
        .processed q.operationId o.reference p.entries.length], m.post p⟩

/-! ### Writing -/

/-- The draft of a posting is filled and committed, and nothing but the commit is reported. -/
theorem Books.run_write (h : q.Books o p) (hm : m.Indexed)
    (hfresh : m.operations.get? q.operationId = none)
    (hfree : m.findByReference o.reference = none)
    (hpresent : ∀ e ∈ p.entries, m.accounts.contains e.account = true) :
    (Booking.write (q.started o) q.stamps.completed p.entries).run Memory.backend m =
      ⟨.ok p.operation, [.processed q.operationId o.reference p.entries.length], m.post p⟩ := by
  have hinsert : m.answer (.insertOperation .empty (q.started o)) =
      (.ok ⟨[q.started o], [], false⟩, m) := by
    have hreference : m.findByReference (q.started o).reference = none := hfree
    rw [Memory.answer, hm.insertOperation hfresh, hreference]
    rfl
  have hupdate : m.answer (.updateOperation ⟨[q.started o], p.entries, false⟩ p.operation) =
      (.ok p.draft, m) :=
    congrArg (·, m) (m.updateOperation_draft p (q.started o) h.id_eq.symm)
  have hcommit : m.answer (.commit p.draft) = (.ok ⟨[], [], true⟩, m.post p) := by
    have hnew : m.operations.get? p.operation.id = none := h.id_eq ▸ hfresh
    rcases hm.commit_cases h.proper hnew with
      ⟨-, -, hcommit⟩ | ⟨winner, hwinner, -⟩ | ⟨detail, ⟨e, he, hmissing⟩, -⟩
    · rw [Memory.answer, hcommit]
      rfl
    · rw [h.reference_eq, hfree] at hwinner
      cases hwinner
    · rw [hpresent e he] at hmissing
      cases hmissing
  calc (Booking.write (q.started o) q.stamps.completed p.entries).run Memory.backend m
    _ = (Booking.writeOperation (q.started o) q.stamps.completed p.entries
          .empty).run Memory.backend m :=
        Memory.run_call (c := .begin) rfl _
    _ = (Booking.writeEntries (q.started o) q.stamps.completed p.entries
          ⟨[q.started o], [], false⟩).run Memory.backend m :=
        Memory.run_call hinsert _
    _ = (Booking.complete (q.started o) q.stamps.completed p.entries.length
          ⟨[q.started o], p.entries, false⟩).run Memory.backend m :=
        Memory.run_call (c := .insertEntries ⟨[q.started o], [], false⟩ p.entries) rfl _
    _ = (Booking.commit p.operation p.entries.length p.draft).run Memory.backend m := by
        rw [Booking.complete, h.markProcessed]
        exact Memory.run_call hupdate _
    _ = ⟨.ok p.operation, [.processed p.operation.id p.operation.reference p.entries.length],
          m.post p⟩ :=
        Memory.run_call hcommit _
    _ = ⟨.ok p.operation, [.processed q.operationId o.reference p.entries.length], m.post p⟩ := by
        rw [h.id_eq, h.reference_eq]

/-! ### Searching -/

theorem run_findSettlement (m : Memory) (q : Submission) (o : Order) :
    (Booking.findSettlement q.settings q.stamps o).run Memory.backend m =
      match q.settlementObstacle m.accounts o with
      | some e => ⟨.error e, o.complaint e, m⟩
      | none => (Booking.begin q.stamps o (q.settlement o)).run Memory.backend m := by
  rw [settlementObstacle]
  cases hsettlement : q.settlement o with
  | none => rw [findSettlement_of_none hsettlement, Option.bind_none]
  | some id =>
      obtain ⟨hsettings, htransfer⟩ := settlement_eq_some_iff.1 hsettlement
      simp only [Booking.findSettlement, hsettings, htransfer, Option.bind_some]
      cases haccount : m.accounts.get? id with
      | none => exact Memory.run_call (Memory.answer_findAccount haccount) _
      | some account =>
          refine (Memory.run_call (Memory.answer_findAccount haccount) _).trans ?_
          cases hsettle : account.kind.canSettle <;>
            simp [Script.andThen, Script.run, unfit, Order.complaint, hsettle]

theorem run_findAccounts (m : Memory) (q : Submission) (o : Order) (ids : List AccountId) :
    (Booking.findAccounts q.settings q.stamps o ids).run Memory.backend m =
      match q.obstacleAmong m.accounts o ids with
      | some e => ⟨.error e, o.complaint e, m⟩
      | none => (Booking.begin q.stamps o (q.settlement o)).run Memory.backend m := by
  induction ids with
  | nil => exact run_findSettlement m q o
  | cons id ids ih =>
      rw [obstacleAmong, Table.contains]
      cases haccount : m.accounts.get? id with
      | none => exact Memory.run_call (Memory.answer_findAccount haccount) _
      | some account => exact (Memory.run_call (Memory.answer_findAccount haccount) _).trans ih

/-- Under a free reference it is the accounts that count. -/
theorem run_lookUp_of_free (q : Submission) (hfree : m.findByReference o.reference = none) :
    (Booking.lookUp q.settings q.stamps o).run Memory.backend m =
      match q.obstacle m.accounts o with
      | some e => ⟨.error e, o.complaint e, m⟩
      | none => (Booking.begin q.stamps o (q.settlement o)).run Memory.backend m :=
  (Memory.run_call (Memory.answer_findByReference hfree) _).trans
    (run_findAccounts m q o o.movement.accounts)

/-! ### The whole -/

/-- **A submission that runs alone ends in one of four ways**, if its id is new. -/
theorem run_ends (q : Submission) {m : Memory} (hm : m.Indexed)
    (hfresh : m.operations.get? q.operationId = none) :
    q.Ends m (q.script.run Memory.backend m) := by
  cases hchecked : q.order with
  | error e =>
      have hscript : (q.script : Script MemoryDraft Booking.Result) = .done (.error e) := by
        rw [order] at hchecked
        simp only [script, Booking.process, hchecked]
      rw [hscript]
      exact .malformed hchecked
  | ok o =>
      have hscript : (q.script : Script MemoryDraft Booking.Result) =
          .emit o.received (Booking.lookUp q.settings q.stamps o) := by
        rw [order] at hchecked
        simp only [script, Booking.process, hchecked, Order.received]
      cases hfind : m.findByReference o.reference with
      | some op =>
          have hrun : (Booking.lookUp q.settings q.stamps o).run Memory.backend m =
              ⟨.ok op, [.duplicate op.id o.reference op.status], m⟩ :=
            Memory.run_call (Memory.answer_findByReference hfind) _
          simp only [hscript, Script.run, hrun]
          exact .known hchecked hfind
      | none =>
          have hrun := q.run_lookUp_of_free hfind
          rw [hscript, Script.run]
          cases hobstacle : q.obstacle m.accounts o with
          | some e =>
              simp only [hobstacle] at hrun
              rw [hrun]
              exact .obstructed hchecked hfind hobstacle
          | none =>
              obtain ⟨p, hbooks⟩ := exists_books hchecked
              have hwrite := hbooks.run_write hm hfresh hfind fun e he => hbooks.present hobstacle he
              simp only [hobstacle, hbooks.begin_eq, Script.run, hwrite] at hrun
              rw [hrun]
              exact .booked hbooks hfind hobstacle

end Submission
end Daybook
