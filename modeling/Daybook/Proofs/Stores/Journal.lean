import Daybook.Proofs.Booking.Report
import Daybook.Proofs.Stores.Agreement

/-!
The log and the books. Requests that book nothing commit nothing and report no booking, and leave the
books as they are (`Script.Quiet`). A submission that books an operation reports it once, after its
entries have been stored. Main statement: after any requests to a store in memory the log tells of the
stored operations, in the order of booking and with the numbers of their entries, and of nothing else
(`journal_matches_books`).
-/

namespace Daybook

namespace Event

/-- The log says that an operation was booked. -/
def isProcessed (e : Event) : Bool :=
  e.line.message == "Operation processed"

/-- The log says that an operation was there already. -/
def isDuplicate (e : Event) : Bool :=
  e.line.message == "Duplicate operation detected, returning existing"

end Event

/-! ### Scripts that book nothing -/

def Call.isCommit {Draft : Type} : Call Draft → Bool
  | .commit _ => true
  | _ => false

namespace Script

variable {Draft α β : Type}

/-- Commits nothing and reports no booking, whatever is answered to its calls. -/
def Quiet : Script Draft α → Prop
  | .done _ => True
  | .emit e next => e.isProcessed = false ∧ next.Quiet
  | .call c next => c.isCommit = false ∧ ∀ r, (next r).Quiet

theorem Quiet.map (f : α → β) {script : Script Draft α} (h : script.Quiet) :
    (script.map f).Quiet := by
  induction script with
  | done a => exact trivial
  | emit e next ih => exact ⟨h.1, ih h.2⟩
  | call c next ih => exact ⟨h.1, fun r => ih r (h.2 r)⟩

theorem quiet_andThen {reply : Except StoreError α} {f : α → Script Draft (Except Error β)}
    (h : ∀ a, (f a).Quiet) : (andThen reply f).Quiet := by
  cases reply with
  | error e => exact trivial
  | ok a => exact h a

theorem quiet_requireAccount (id : AccountId) {next : Script Draft (Except Error α)}
    (h : next.Quiet) : (Balance.requireAccount id next).Quiet := by
  refine ⟨rfl, fun r => quiet_andThen fun found => ?_⟩
  cases found with
  | none => exact trivial
  | some a => exact h

theorem quiet_current (now : Time) (currency : Currency) (id : AccountId) :
    (Balance.current now currency id : Script Draft _).Quiet := by
  refine quiet_requireAccount id ⟨rfl, fun r => quiet_andThen fun es => ?_⟩
  cases Entry.total currency es with
  | error cause => exact trivial
  | ok amount => exact ⟨rfl, trivial⟩

theorem quiet_atMoment (cutoff : Time) (currency : Currency) (id : AccountId) :
    (Balance.atMoment cutoff currency id : Script Draft _).Quiet := by
  refine quiet_requireAccount id ⟨rfl, fun r => quiet_andThen fun es => ?_⟩
  simp only
  split <;> exact trivial

theorem quiet_keep (r : Reconciliation) : (Reconciliation.keep r : Script Draft _).Quiet := by
  refine ⟨rfl, fun reply => quiet_andThen fun _ => ⟨?_, trivial⟩⟩
  rw [Reconciliation.event]
  split_ifs <;> rfl

theorem quiet_reconcile (stamp : Stamp) (currency : Currency) (account : AccountId)
    (expected : Decimal) :
    (Reconciliation.reconcile stamp currency account expected : Script Draft _).Quiet := by
  simp only [Reconciliation.reconcile]
  split_ifs with hrange
  · exact trivial
  refine quiet_requireAccount account ⟨rfl, fun r => quiet_andThen fun es => ?_⟩
  cases Entry.total currency es with
  | error cause => exact trivial
  | ok calculated =>
      simp only
      cases Reconciliation.compare stamp account (Money.new expected currency) calculated with
      | error cause => exact trivial
      | ok record => exact quiet_keep record

theorem quiet_history (id : AccountId) : (Reconciliation.history id : Script Draft _).Quiet :=
  quiet_requireAccount id ⟨rfl, fun _ => quiet_andThen fun _ => trivial⟩

theorem quiet_summary (currency : Currency) (limit : Nat) :
    (Reconciliation.summary currency limit : Script Draft _).Quiet :=
  ⟨rfl, fun _ => quiet_andThen fun _ => ⟨rfl, fun _ => quiet_andThen fun _ => trivial⟩⟩

theorem quiet_analyze (id : ReconciliationId) (limit : Nat) :
    (Reconciliation.analyze id limit : Script Draft _).Quiet := by
  refine ⟨rfl, fun r => quiet_andThen fun found => ?_⟩
  cases found with
  | none => exact trivial
  | some record => exact ⟨rfl, fun r => quiet_andThen fun es => trivial⟩

end Script

/-- The submission that a request makes, if it makes one. -/
def Request.submission? : Request → Option Submission
  | .process q => some q
  | _ => none

theorem Request.quiet {Draft : Type} {q : Request} (h : q.submission? = none) :
    (q.script : Script Draft _).Quiet := by
  cases q with
  | process q => cases h
  | balance now currency account => exact (Script.quiet_current now currency account).map _
  | balanceAt cutoff currency account => exact (Script.quiet_atMoment cutoff currency account).map _
  | reconcile stamp currency account expected =>
      exact (Script.quiet_reconcile stamp currency account expected).map _
  | history account => exact (Script.quiet_history account).map _
  | dashboard currency limit => exact (Script.quiet_summary currency limit).map _
  | analyze id limit => exact (Script.quiet_analyze id limit).map _
  | _ => exact ⟨rfl, fun _ => Script.quiet_andThen fun _ => trivial⟩

namespace Memory

variable {posts : Posting → Prop} {suits : Entry → Account → Prop} {m : Memory}

/-- Only a commit changes consistent books. -/
theorem Consistent.sameBooks_answer (hm : m.Consistent posts suits)
    (hproper : ∀ {p}, posts p → p.Proper) {c : Call MemoryDraft} (hc : c.isCommit = false) :
    m.SameBooks (m.answer c).2 := by
  cases c with
  | insertAccount a => exact sameBooks_insertAccount m a
  | deleteAccount id => exact sameBooks_deleteAccount m id
  | deleteOperation id => exact hm.sameBooks_deleteOperation hproper id
  | insertReconciliation r => exact sameBooks_insertReconciliation m r
  | commit d => cases hc
  | _ => exact .refl m

theorem Consistent.run_quiet {α : Type} (hm : m.Consistent posts suits)
    (hproper : ∀ {p}, posts p → p.Proper) {script : Script MemoryDraft α} (h : script.Quiet) :
    m.SameBooks (script.run backend m).state ∧
      (script.run backend m).events.filter Event.isProcessed = [] := by
  induction script generalizing m with
  | done a => exact ⟨.refl m, rfl⟩
  | emit e next ih =>
      obtain ⟨hsame, hnone⟩ := ih hm h.2
      refine ⟨hsame, ?_⟩
      rw [Script.run, List.filter_cons_of_neg (by simp [h.1])]
      exact hnone
  | call c next ih =>
      have hfirst := hm.sameBooks_answer hproper h.1
      obtain ⟨hsame, hnone⟩ := ih _ (hm.of_sameBooks hfirst) (h.2 (m.answer c).1)
      exact ⟨hfirst.trans hsame, hnone⟩

end Memory

/-! ### Submissions -/

namespace Submission.Ends

variable {q : Submission} {m : Memory} {o : Outcome Memory Booking.Result}

/-- Whoever gets an operation that was there before is reported as a duplicate of it. -/
theorem duplicate (h : q.Ends m o) (hm : m.Indexed) (hfresh : m.operations.get? q.operationId = none)
    {op : Operation} (hresult : o.result = .ok op) (hthere : m.operations.get? op.id = some op) :
    o.events.filter Event.isDuplicate = [.duplicate op.id op.reference op.status] ∧
      o.events.filter Event.isProcessed = [] := by
  cases h with
  | malformed checked => cases hresult
  | known checked found =>
      cases hresult
      rw [(hm.find_iff.1 found).2]
      exact ⟨rfl, rfl⟩
  | obstructed checked free obstacle => cases hresult
  | booked books free clear =>
      cases hresult
      rw [books.id_eq, hfresh] at hthere
      cases hthere

theorem silent (h : q.Ends m o) {e : Error} (he : q.order = .error e) :
    o.result = .error e ∧ o.events = [] := by
  cases h with
  | malformed checked =>
      cases checked.symm.trans he
      exact ⟨rfl, rfl⟩
  | known checked found => cases checked.symm.trans he
  | obstructed checked free obstacle => cases checked.symm.trans he
  | booked books free clear => cases books.checked.symm.trans he

end Submission.Ends

/-! ### The log of requests -/

/-- The ids of the operations that a request may book. -/
def Request.operationIds (q : Request) : List OperationId :=
  q.submission?.toList.map (·.operationId)

/-- What is reported while requests are served, one after the other. -/
def journal {σ Draft : Type} (b : Backend σ Draft) : List Request → σ → List Event
  | [], _ => []
  | q :: qs, s => (q.script.run b s).events ++ journal b qs (q.script.run b s).state

theorem serve_append {σ Draft : Type} (b : Backend σ Draft) (earlier later : List Request) (s : σ) :
    (serve b (earlier ++ later) s).2 = (serve b later (serve b earlier s).2).2 := by
  induction earlier generalizing s with
  | nil => rfl
  | cons q earlier ih => exact ih (q.script.ending b s).2

/-- The event of an operation that is stored. -/
def Memory.booking (m : Memory) (op : Operation) : Event :=
  .processed op.id op.reference (m.entriesOfOperation op.id).length

namespace Memory

/-- The log tells of the stored operations, one after the other as they were booked, and of nothing
else. The ids that are ahead are new. -/
structure Audited (m : Memory) (log : List Event) (ahead : List OperationId) : Prop where
  consistent : m.Consistent Posting.Proper fun _ _ => True
  keyed : m.operations.Keyed Operation.id
  told : log.filter Event.isProcessed = m.operations.values.map m.booking
  grouped : m.entries = m.operations.values.flatMap fun op => m.entriesOfOperation op.id
  distinct : ahead.Nodup
  unused : ∀ id ∈ ahead, m.operations.get? id = none

variable {m m' : Memory} {log events : List Event} {ahead used : List OperationId} {p : Posting}

namespace Audited

theorem empty (h : ahead.Nodup) : Audited .empty [] ahead :=
  ⟨.empty, .empty, rfl, rfl, h, fun _ _ => rfl⟩

/-- Ids need not be used. -/
theorem skip (h : m.Audited log (used ++ ahead)) : m.Audited log ahead where
  consistent := h.consistent
  keyed := h.keyed
  told := h.told
  grouped := h.grouped
  distinct := (List.nodup_append.1 h.distinct).2.1
  unused id hid := h.unused id (List.mem_append_right _ hid)

/-- Nothing is booked, and nothing of that kind is told. -/
theorem same (h : m.Audited log ahead) (hsame : m.SameBooks m')
    (hnone : events.filter Event.isProcessed = []) : m'.Audited (log ++ events) ahead := by
  have hentries : m'.entriesOfOperation = m.entriesOfOperation := by
    funext id
    rw [entriesOfOperation, hsame.entries, entriesOfOperation]
  have hbooking : m'.booking = m.booking := by
    funext op
    rw [booking, hentries, booking]
  refine ⟨h.consistent.of_sameBooks hsame, ?_, ?_, ?_, h.distinct, ?_⟩
  · rw [hsame.operations]
    exact h.keyed
  · rw [List.filter_append, hnone, List.append_nil, hsame.operations, hbooking]
    exact h.told
  · rw [hsame.entries, hsame.operations, hentries]
    exact h.grouped
  · rw [hsame.operations]
    exact h.unused

/-- A posting with the first of the ids ahead is told at the end. -/
theorem post {id : OperationId} (h : m.Audited log (id :: ahead)) (hp : p.Proper)
    (hid : p.operation.id = id) (hfree : m.findByReference p.operation.reference = none)
    (hpresent : ∀ e ∈ p.entries, m.accounts.contains e.account = true)
    (htold : events.filter Event.isProcessed =
      [.processed p.operation.id p.operation.reference p.entries.length]) :
    (m.post p).Audited (log ++ events) ahead := by
  have hfresh : m.operations.get? p.operation.id = none := hid ▸ h.unused id List.mem_cons_self
  have hnew := Table.contains_eq_false_iff.2 hfresh
  have hvalues : (m.post p).operations.values = m.operations.values ++ [p.operation] :=
    Table.values_insert hnew _
  have hself : (m.post p).entriesOfOperation p.operation.id = p.entries := by
    rw [entriesOfOperation_post_self hp, h.consistent.entriesOfOperation_of_fresh hfresh,
      List.nil_append]
  -- The operations before this one keep their entries, since their ids differ from its id.
  have hother : ∀ op ∈ m.operations.values,
      (m.post p).entriesOfOperation op.id = m.entriesOfOperation op.id := by
    intro op hop
    refine entriesOfOperation_post_of_ne hp fun hsame => ?_
    rw [h.keyed.mem_values_iff, hsame, hfresh] at hop
    cases hop
  obtain ⟨hahead, hdistinct⟩ := List.nodup_cons.1 h.distinct
  refine ⟨?_, h.keyed.insert hnew rfl, ?_, ?_, hdistinct, ?_⟩
  · refine h.consistent.post hp hp hfresh hfree fun e he => ?_
    obtain ⟨a, ha⟩ := Option.isSome_iff_exists.1 (hpresent e he)
    exact ⟨a, ha, trivial⟩
  · have hsame : m.operations.values.map (m.post p).booking = m.operations.values.map m.booking :=
      List.map_congr_left fun op hop => by rw [booking, hother op hop, booking]
    rw [List.filter_append, h.told, htold, hvalues, List.map_append, hsame, List.map_singleton, booking,
      hself]
  · have hsame : (m.operations.values.flatMap fun op => (m.post p).entriesOfOperation op.id) =
        m.operations.values.flatMap fun op => m.entriesOfOperation op.id :=
      List.flatMap_congr hother
    rw [hvalues, List.flatMap_append, List.flatMap_singleton, hself, hsame, ← h.grouped]
    rfl
  · intro id' hid'
    have hne : id' ≠ p.operation.id := by
      rw [hid]
      rintro rfl
      exact hahead hid'
    rw [get?_post, if_neg hne]
    exact h.unused id' (List.mem_cons_of_mem _ hid')

/-- A submission takes its id from the list. -/
theorem submission {q : Submission} (h : m.Audited log (q.operationId :: ahead)) :
    (q.script.run backend m).state.Audited (log ++ (q.script.run backend m).events) ahead ∧
      m.operations.values <+: (q.script.run backend m).state.operations.values := by
  have hfresh := h.unused _ List.mem_cons_self
  have hends := q.run_ends h.consistent.indexed hfresh
  have hahead : m.Audited log ([q.operationId] ++ ahead) := h
  have hrest := hahead.skip
  generalize q.script.run backend m = o at hends ⊢
  cases hends with
  | malformed checked => exact ⟨hrest.same (.refl m) rfl, List.prefix_rfl⟩
  | known checked found => exact ⟨hrest.same (.refl m) rfl, List.prefix_rfl⟩
  | @obstructed o e checked free obstacle =>
      refine ⟨hrest.same (.refl m) ?_, List.prefix_rfl⟩
      cases e <;> rfl
  | @booked o p books free clear =>
      have hnew : m.operations.contains p.operation.id = false :=
        Table.contains_eq_false_iff.2 (books.id_eq ▸ hfresh)
      refine ⟨h.post books.proper books.id_eq ?_ (fun e he => books.present clear he) ?_, ?_⟩
      · rw [books.reference_eq]
        exact free
      · rw [books.id_eq, books.reference_eq]
        rfl
      · exact ⟨[p.operation], (Table.values_insert hnew _).symm⟩

theorem request {q : Request} (h : m.Audited log (q.operationIds ++ ahead)) :
    (q.script.run backend m).state.Audited (log ++ (q.script.run backend m).events) ahead ∧
      m.operations.values <+: (q.script.run backend m).state.operations.values := by
  cases hq : q.submission? with
  | none =>
      obtain ⟨hsame, hnone⟩ := h.consistent.run_quiet (fun hp => hp) (Request.quiet hq)
      refine ⟨h.skip.same hsame hnone, ?_⟩
      simp only [hsame.operations, List.prefix_rfl]
  | some s =>
      cases q with
      | process q =>
          rw [Request.script, Script.run_map]
          exact submission h
      | _ => cases hq

/-- **From one request to all of them.** -/
theorem serve {requests : List Request} (h : m.Audited log (requests.flatMap Request.operationIds ++ ahead)) :
    (serve backend requests m).2.Audited (log ++ journal backend requests m) ahead ∧
      m.operations.values <+: (serve backend requests m).2.operations.values := by
  induction requests generalizing m log with
  | nil =>
      refine ⟨?_, List.prefix_rfl⟩
      rw [journal, List.append_nil]
      exact h
  | cons q requests ih =>
      rw [List.flatMap_cons, List.append_assoc] at h
      obtain ⟨hfirst, hadded⟩ := h.request
      obtain ⟨hrest, hmore⟩ := ih hfirst
      rw [List.append_assoc] at hrest
      exact ⟨hrest, hadded.trans hmore⟩

end Audited
end Memory

/-- **The log matches the books.** From an empty store on, whatever is requested: the operations that
are reported as processed are the stored ones, each once, in the order in which they were booked and
with the number of their entries. A submission that is answered with an operation from before is
reported as a duplicate of it and not as processed, and one that is malformed is not reported. -/
theorem journal_matches_books (requests : List Request)
    (hids : (requests.flatMap Request.operationIds).Nodup) :
    let m := (serve Memory.backend requests .empty).2
    let booked := m.operations.values
    (journal Memory.backend requests .empty).filter Event.isProcessed =
      booked.map (fun op => .processed op.id op.reference (m.entriesOfOperation op.id).length) ∧
    (booked.map (·.id)).Nodup ∧ (∀ op, op ∈ booked ↔ m.operations.get? op.id = some op) ∧
    m.entries = booked.flatMap (fun op => m.entriesOfOperation op.id) ∧
    (∀ earlier later, requests = earlier ++ later →
      (serve Memory.backend earlier .empty).2.operations.values <+: booked) ∧
    ∀ earlier q later, requests = earlier ++ .process q :: later →
      let before := (serve Memory.backend earlier .empty).2
      let call := q.script.run Memory.backend before
      (∀ op, call.result = .ok op → before.operations.get? op.id = some op →
        call.events.filter Event.isDuplicate = [.duplicate op.id op.reference op.status] ∧
          call.events.filter Event.isProcessed = []) ∧
      ∀ e, q.order = .error e → call.result = .error e ∧ call.events = [] := by
  intro m booked
  have hstart : Memory.empty.Audited [] (requests.flatMap Request.operationIds ++ []) := by
    rw [List.append_nil]
    exact .empty hids
  obtain ⟨haudited, -⟩ := hstart.serve
  refine ⟨haudited.told, haudited.keyed.nodup_values, fun op => haudited.keyed.mem_values_iff,
    haudited.grouped, ?_, ?_⟩
  · rintro earlier later rfl
    rw [List.flatMap_append, List.append_assoc] at hstart
    have hmore := (hstart.serve).1.serve.2
    rw [← serve_append] at hmore
    exact hmore
  · rintro earlier q later rfl before call
    rw [List.flatMap_append, List.append_assoc] at hstart
    obtain ⟨hbefore, -⟩ := hstart.serve
    have hfresh : before.operations.get? q.operationId = none := hbefore.unused _ List.mem_cons_self
    have hends : q.Ends before call := q.run_ends hbefore.consistent.indexed hfresh
    exact ⟨fun op => hends.duplicate hbefore.consistent.indexed hfresh, fun e => hends.silent⟩

theorem journal_matches_dayAtTheLedger :
    (dayAtTheLedger.flatMap Request.operationIds).Nodup ∧
    ((journal Memory.backend dayAtTheLedger .empty).filter Event.isProcessed).length = 1 := by
  have hids : (dayAtTheLedger.flatMap Request.operationIds).Nodup := by decide
  obtain ⟨htold, -⟩ := journal_matches_books dayAtTheLedger hids
  refine ⟨hids, ?_⟩
  rw [htold]
  decide +kernel

end Daybook
