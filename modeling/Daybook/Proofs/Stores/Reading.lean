import Daybook.Proofs.Booking.Atomicity
import Daybook.Proofs.Stores.Requests

/-!
Stores that read alike. As long as a script only searches, any two stores that answer searches as a
store in memory does take it the same way (`Memory.Leads`). A request comes to its answer like this,
or it comes to the one place where it writes: the write of a posting (`Submission.leads`) or of a
record (`Reconciliation.leads`).
-/

namespace Daybook

/-- The searches of requests are answered from the rows of a store in memory, and change nothing. -/
structure Backend.Reads {σ Draft : Type} (b : Backend σ Draft) (s : σ) (m : Memory) : Prop where
  findAccount : ∀ id, b.Answers (.findAccount id) s (.ok (m.accounts.get? id)) s
  countAccounts : b.Answers .countAccounts s (.ok m.accounts.size) s
  findByReference : ∀ r, b.Answers (.findByReference r) s (.ok (m.findByReference r)) s
  entriesOf : ∀ id, b.Answers (.entriesOf id) s (.ok (m.entriesOf id)) s
  recentEntries : ∀ id {limit}, limit < twos 63 →
    b.Answers (.recentEntries id limit) s (.ok (m.recentEntries id limit)) s
  entriesUpTo : ∀ id cutoff,
    b.Answers (.entriesUpTo id cutoff) s (.ok (Entry.upTo cutoff (m.entriesOf id))) s
  findReconciliation : ∀ id,
    b.Answers (.findReconciliation id) s (.ok (m.findReconciliation id)) s
  reconciliationsOf : ∀ id, b.Answers (.reconciliationsOf id) s
    (.ok (Memory.newestFirst (m.reconciliations.filter (·.account == id)))) s
  allReconciliations :
    b.Answers .allReconciliations s (.ok (Memory.newestFirst m.reconciliations)) s

namespace Memory

theorem backend_answers {m m' : Memory} {c : Call MemoryDraft} {reply : c.Reply}
    (h : m.answer c = (reply, m')) :
    Memory.backend.Answers c m reply m' := by
  have hact : Memory.backend.act c m = (reply, [], m') := by
    simp only [Memory.backend, h]
  exact ⟨by rw [hact], by rw [hact]⟩

theorem reads (m : Memory) : Memory.backend.Reads m m where
  findAccount _ := ⟨rfl, rfl⟩
  countAccounts := ⟨rfl, rfl⟩
  findByReference _ := ⟨rfl, rfl⟩
  entriesOf _ := ⟨rfl, rfl⟩
  recentEntries _ _ _ := ⟨rfl, rfl⟩
  entriesUpTo _ _ := ⟨rfl, rfl⟩
  findReconciliation _ := ⟨rfl, rfl⟩
  reconciliationsOf _ := ⟨rfl, rfl⟩
  allReconciliations := ⟨rfl, rfl⟩

/-- In every store that reads like this one, the script ends as the rest of it does. -/
def Leads {α : Type} (m : Memory) (script rest : ∀ Draft : Type, Script Draft α) : Prop :=
  ∀ ⦃σ Draft : Type⦄ ⦃b : Backend σ Draft⦄ ⦃s : σ⦄, b.Reads s m →
    (script Draft).ending b s = (rest Draft).ending b s

/-- Every store that reads like this one gives the script the same result, and stays as it is. -/
def Decides {α : Type} (m : Memory) (script : ∀ Draft : Type, Script Draft α) : Prop :=
  ∃ r, m.Leads script fun _ => .done r

variable {α β : Type} {m : Memory} {script script' rest : ∀ Draft : Type, Script Draft α}

theorem Leads.trans (h : m.Leads script script') (h' : m.Leads script' rest) : m.Leads script rest :=
  fun _ _ _ _ hs => (h hs).trans (h' hs)

theorem Leads.decides (h : m.Leads script rest) (hrest : m.Decides rest) : m.Decides script :=
  ⟨hrest.choose, h.trans hrest.choose_spec⟩

end Memory

/-! ### Balances -/

namespace Balance

variable {α : Type} {m : Memory} {next : ∀ Draft : Type, Script Draft (Except Error α)} {id : AccountId}

theorem leads_missing (h : m.accounts.get? id = none) :
    m.Leads (fun Draft => requireAccount id (next Draft)) fun _ => .done (.error (.accountNotFound id)) := by
  intro σ Draft b s hs
  refine (Script.ending_call (hs.findAccount id)).trans ?_
  rw [h]
  rfl

theorem leads_present {a : Account} (h : m.accounts.get? id = some a) :
    m.Leads (fun Draft => requireAccount id (next Draft)) next := by
  intro σ Draft b s hs
  refine (Script.ending_call (hs.findAccount id)).trans ?_
  rw [h]
  rfl

theorem decides_requireAccount (h : m.Decides next) :
    m.Decides fun Draft => requireAccount id (next Draft) := by
  cases haccount : m.accounts.get? id with
  | none => exact ⟨_, leads_missing haccount⟩
  | some a => exact (leads_present haccount).decides h

/-- What the current balance of an account is answered with. -/
def answer (m : Memory) (now : Time) (currency : Currency) (id : AccountId) : Except Error Balance :=
  match m.accounts.get? id, Entry.total currency (m.entriesOf id) with
  | none, _ => .error (.accountNotFound id)
  | some _, .error cause => .error (.money cause)
  | some _, .ok amount => .ok ⟨id, amount, (m.entriesOf id).length, now⟩

theorem leads_current (m : Memory) (now : Time) (currency : Currency) (id : AccountId) :
    m.Leads (fun _ => current now currency id) fun _ => .done (answer m now currency id) := by
  rw [answer]
  cases haccount : m.accounts.get? id with
  | none => exact leads_missing haccount
  | some a =>
      refine (leads_present haccount).trans fun σ Draft b s hs => ?_
      refine (Script.ending_call (hs.entriesOf id)).trans ?_
      cases htotal : Entry.total currency (m.entriesOf id) with
      | error cause => simp only [Script.andThen, htotal]
      | ok amount => simp only [Script.andThen, htotal, Script.ending_emit]

theorem ending_current (m : Memory) (now : Time) (currency : Currency) (id : AccountId) :
    (current now currency id).ending Memory.backend m = (answer m now currency id, m) :=
  leads_current m now currency id m.reads

theorem decides_current (m : Memory) (now : Time) (currency : Currency) (id : AccountId) :
    m.Decides fun _ => current now currency id :=
  ⟨_, leads_current m now currency id⟩

/-- What the balance of an account at a moment is answered with. -/
def answerAt (m : Memory) (cutoff : Time) (currency : Currency) (id : AccountId) :
    Except Error Balance :=
  let counted := Entry.upTo cutoff (m.entriesOf id)
  match m.accounts.get? id, Entry.total currency counted with
  | none, _ => .error (.accountNotFound id)
  | some _, .error cause => .error (.money cause)
  | some _, .ok amount => .ok ⟨id, amount, counted.length, cutoff⟩

/-- The entries are chosen twice, by the store and by the count. -/
theorem leads_atMoment (m : Memory) (cutoff : Time) (currency : Currency) (id : AccountId) :
    m.Leads (fun _ => atMoment cutoff currency id)
      fun _ => .done (answerAt m cutoff currency id) := by
  have htwice : Entry.upTo cutoff (Entry.upTo cutoff (m.entriesOf id)) =
      Entry.upTo cutoff (m.entriesOf id) := by
    simp only [Entry.upTo, List.filter_filter, Bool.and_self]
  rw [answerAt]
  cases haccount : m.accounts.get? id with
  | none => exact leads_missing haccount
  | some a =>
      refine (leads_present haccount).trans fun σ Draft b s hs => ?_
      refine (Script.ending_call (hs.entriesUpTo id cutoff)).trans ?_
      simp only [Script.andThen, htwice]
      cases Entry.total currency (Entry.upTo cutoff (m.entriesOf id)) <;> rfl

theorem ending_atMoment (m : Memory) (cutoff : Time) (currency : Currency) (id : AccountId) :
    (atMoment cutoff currency id).ending Memory.backend m = (answerAt m cutoff currency id, m) :=
  leads_atMoment m cutoff currency id m.reads

theorem decides_atMoment (m : Memory) (cutoff : Time) (currency : Currency) (id : AccountId) :
    m.Decides fun _ => atMoment cutoff currency id :=
  ⟨_, leads_atMoment m cutoff currency id⟩

end Balance

/-! ### Reconciliations -/

namespace Reconciliation

theorem decides_history (m : Memory) (id : AccountId) : m.Decides fun _ => history id := by
  let records := Memory.newestFirst (m.reconciliations.filter (·.account == id))
  refine Balance.decides_requireAccount ⟨.ok records, fun σ Draft b s hs => ?_⟩
  exact Script.ending_call (hs.reconciliationsOf id)

theorem decides_summary (m : Memory) (currency : Currency) (limit : Nat) :
    m.Decides fun _ => summary currency limit := by
  refine ⟨.ok (.of m.accounts.size (Memory.newestFirst m.reconciliations) limit currency),
    fun σ Draft b s hs => ?_⟩
  exact (Script.ending_call hs.countAccounts).trans (Script.ending_call hs.allReconciliations)

theorem decides_analyze (m : Memory) (id : ReconciliationId) {limit : Nat} (hlimit : limit < twos 63) :
    m.Decides fun _ => analyze id limit := by
  cases hfound : m.findReconciliation id with
  | none =>
      refine ⟨.error (.reconciliationNotFound id), fun σ Draft b s hs => ?_⟩
      refine (Script.ending_call (hs.findReconciliation id)).trans ?_
      rw [hfound]
      rfl
  | some record =>
      refine ⟨.ok (DivergenceReport.of record (m.recentEntries record.account limit)),
        fun σ Draft b s hs => ?_⟩
      refine (Script.ending_call (hs.findReconciliation id)).trans ?_
      rw [hfound]
      exact Script.ending_call (hs.recentEntries record.account hlimit)

section Reconcile

variable {m : Memory} {stamp : Stamp} {currency : Currency} {account : AccountId} {expected : Decimal}

/-- The range of the expected balance is looked at before anything else. -/
theorem leads_outOfRange (h : (Money.new expected currency).isStorable = false) :
    m.Leads (fun _ => reconcile stamp currency account expected)
      fun _ => .done (.error (.amountOutOfRange expected)) := by
  simp only [reconcile, h]
  exact fun σ Draft b s hs => rfl

theorem leads_missing (h : (Money.new expected currency).isStorable = true)
    (haccount : m.accounts.get? account = none) :
    m.Leads (fun _ => reconcile stamp currency account expected)
      fun _ => .done (.error (.accountNotFound account)) := by
  simp only [reconcile, h, Bool.not_true, Bool.false_eq_true, if_false]
  exact Balance.leads_missing haccount

/-- With an account that is there it comes to what the entries come to. -/
theorem leads_present (h : (Money.new expected currency).isStorable = true) {a : Account}
    (haccount : m.accounts.get? account = some a) :
    m.Leads (fun _ => reconcile stamp currency account expected) fun _ =>
      match Entry.total currency (m.entriesOf account) with
      | .error cause => .done (.error (.money cause))
      | .ok calculated =>
        match compare stamp account (Money.new expected currency) calculated with
        | .error cause => .done (.error cause)
        | .ok record => keep record := by
  simp only [reconcile, h, Bool.not_true, Bool.false_eq_true, if_false]
  refine (Balance.leads_present haccount).trans ?_
  exact fun σ Draft b s hs => Script.ending_call (hs.entriesOf account)

/-- **A reconciliation fails for a reason that is read, or comes to its record.** -/
theorem leads (m : Memory) (stamp : Stamp) (currency : Currency) (account : AccountId)
    (expected : Decimal) :
    (∃ e, m.Leads (fun _ => reconcile stamp currency account expected) fun _ => .done (.error e)) ∨
    ∃ calculated record, (Money.new expected currency).isStorable = true ∧
      m.accounts.contains account = true ∧
      Entry.total currency (m.entriesOf account) = .ok calculated ∧
      compare stamp account (Money.new expected currency) calculated = .ok record ∧
      m.Leads (fun _ => reconcile stamp currency account expected) fun _ => keep record := by
  cases hstorable : (Money.new expected currency).isStorable with
  | false => exact Or.inl ⟨_, leads_outOfRange hstorable⟩
  | true =>
      cases haccount : m.accounts.get? account with
      | none => exact Or.inl ⟨_, leads_missing hstorable haccount⟩
      | some a =>
          have hleads : m.Leads (fun _ => reconcile stamp currency account expected) _ :=
            leads_present hstorable haccount
          cases htotal : Entry.total currency (m.entriesOf account) with
          | error cause =>
              simp only [htotal] at hleads
              exact Or.inl ⟨_, hleads⟩
          | ok calculated =>
              cases hcompare : compare stamp account (Money.new expected currency) calculated with
              | error cause =>
                  simp only [htotal, hcompare] at hleads
                  exact Or.inl ⟨_, hleads⟩
              | ok record =>
                  simp only [htotal, hcompare] at hleads
                  refine Or.inr ⟨calculated, record, rfl, ?_, rfl, hcompare, hleads⟩
                  rw [Table.contains, haccount]
                  rfl

end Reconcile

end Reconciliation

/-! ### Submissions -/

namespace Submission

/-- The submission fails if there is an obstacle, and is begun otherwise. -/
def unlessObstructed (q : Submission) (o : Order) (obstacle : Option Error) {Draft : Type} :
    Script Draft Booking.Result :=
  match obstacle with
  | some e => .done (.error e)
  | none => Booking.begin q.stamps o (q.settlement o)

/-- What is known under the reference is the answer, and otherwise the accounts are looked up. -/
def unlessKnown (q : Submission) (o : Order) (known : Option Operation) {Draft : Type} :
    Script Draft Booking.Result :=
  match known with
  | some op => .done (.ok op)
  | none => Booking.findAccounts q.settings q.stamps o o.movement.accounts

theorem leads_findSettlement (m : Memory) (q : Submission) (o : Order) :
    m.Leads (fun _ => Booking.findSettlement q.settings q.stamps o)
      fun _ => q.unlessObstructed o (q.settlementObstacle m.accounts o) := by
  intro σ Draft b s hs
  rw [settlementObstacle]
  cases hsettlement : q.settlement o with
  | none =>
      show (Booking.findSettlement q.settings q.stamps o).ending b s = _
      simp only [findSettlement_of_none hsettlement, Option.bind_none, unlessObstructed, hsettlement]
  | some id =>
      obtain ⟨hsettings, htransfer⟩ := settlement_eq_some_iff.1 hsettlement
      simp only [Booking.findSettlement, hsettings, htransfer]
      refine (Script.ending_call (hs.findAccount id)).trans ?_
      rw [Option.bind_some]
      cases haccount : m.accounts.get? id with
      | none => rfl
      | some account =>
          cases hsettle : account.kind.canSettle <;>
            simp [Script.andThen, unfit, unlessObstructed, hsettle, hsettlement]

theorem leads_findAccounts (m : Memory) (q : Submission) (o : Order) (ids : List AccountId) :
    m.Leads (fun _ => Booking.findAccounts q.settings q.stamps o ids)
      fun _ => q.unlessObstructed o (q.obstacleAmong m.accounts o ids) := by
  induction ids with
  | nil => exact leads_findSettlement m q o
  | cons id ids ih =>
      intro σ Draft b s hs
      refine (Script.ending_call (hs.findAccount id)).trans ?_
      rw [obstacleAmong, Table.contains]
      cases haccount : m.accounts.get? id with
      | none => rfl
      | some a => exact ih hs

/-- **A submission is answered from what is read, or comes to the write of its posting.** -/
theorem leads (m : Memory) (q : Submission) :
    (m.Decides fun _ => q.script) ∨
    ∃ o p, q.Books o p ∧ m.findByReference o.reference = none ∧ q.obstacle m.accounts o = none ∧
      m.Leads (fun _ => q.script)
        fun _ => Booking.write (q.started o) q.stamps.completed p.entries := by
  cases hchecked : q.order with
  | error e =>
      refine Or.inl ⟨.error e, fun σ Draft b s hs => ?_⟩
      rw [order] at hchecked
      simp only [script, Booking.process, hchecked]
  | ok o =>
      have hscript : m.Leads (fun _ => q.script)
          fun _ => q.unlessKnown o (m.findByReference o.reference) := by
        intro σ Draft b s hs
        rw [order] at hchecked
        simp only [script, Booking.process, hchecked, Script.ending_emit]
        refine (Script.ending_call (hs.findByReference o.reference)).trans ?_
        cases m.findByReference o.reference <;> rfl
      cases hfind : m.findByReference o.reference with
      | some op =>
          rw [hfind] at hscript
          exact Or.inl ⟨.ok op, hscript⟩
      | none =>
          rw [hfind] at hscript
          have hsearch := hscript.trans (leads_findAccounts m q o o.movement.accounts)
          rw [← obstacle] at hsearch
          cases hobstacle : q.obstacle m.accounts o with
          | some e =>
              rw [hobstacle] at hsearch
              exact Or.inl ⟨.error e, hsearch⟩
          | none =>
              rw [hobstacle] at hsearch
              obtain ⟨p, hbooks⟩ := exists_books hchecked
              refine Or.inr ⟨o, p, hbooks, hfind, hobstacle, hsearch.trans fun σ Draft b s hs => ?_⟩
              show (Booking.begin q.stamps o (q.settlement o)).ending b s = _
              rw [hbooks.begin_eq, Script.ending_emit]

end Submission

end Daybook
