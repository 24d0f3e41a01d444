import Daybook.Proofs.Booking.Reached
import Daybook.Proofs.Database.Checks

/-!
What every reached ledger looks like. Under fixed settings each stored operation has been processed,
and its entries are the lines of the movement that its command asks for, of the rounded amount; the
amounts fit the books, and what settles is on an account that can (`Memory.wellFormed_of_reached`). Which
command that is, the submissions of the run tell: the latest under the id of the operation
(`Memory.ReachedBy`).
-/

namespace Daybook

/-- The posting carries out the movement that the submission asks for, of the amount of its command as it
is rounded: the entries are the lines of the movement, and there are no others. -/
structure Submission.CarriedOut (q : Submission) (mv : Movement) (p : Posting) : Prop where
  asks : q.command.Asks mv
  distinct : ∀ source target, mv = .transfer source target → source ≠ target
  kind : p.operation.kind = mv.kind
  reference : p.operation.reference.text = Text.trim q.command.reference
  positive : (Money.new q.command.amount q.settings.currency).isPositive = true
  lines : p.entries.map Entry.line =
    mv.lines q.settings.settlementAccount (Money.new q.command.amount q.settings.currency)

namespace Submission.Books

variable {q : Submission} {o : Order} {p : Posting}

/-- The lines of a posting, by the settings alone. -/
theorem lines_settings (h : q.Books o p) :
    p.entries.map Entry.line = o.movement.lines q.settings.settlementAccount o.amount := by
  rw [h.lines, settlement]
  split_ifs with htransfer
  · exact Movement.lines_of_isTransfer htransfer
  · rfl

theorem carriedOut (h : q.Books o p) : q.CarriedOut o.movement p := by
  obtain ⟨hparse, -, hamount, hvalid⟩ := Command.check_eq_ok h.checked
  refine ⟨Command.check_asks h.checked, fun _ _ => hvalid.distinct, ?_, ?_, ?_, ?_⟩
  · rw [h.operation]
    rfl
  · rw [h.reference_eq]
    exact Reference.parse_eq_ok_iff.1 hparse
  · rw [← hamount]
    exact hvalid.positive
  · rw [← hamount]
    exact h.lines_settings

end Submission.Books

namespace Money

/-- An amount other than zero that fits the books of a currency. -/
structure Books (m : Money) (currency : Currency) : Prop where
  nonzero : m.isZero = false
  storable : m.isStorable = true
  scale : m.amount.scale = 4
  currency_eq : m.currency = currency

theorem Books.negate {m : Money} {currency : Currency} (h : m.Books currency) :
    m.negate.Books currency :=
  ⟨h.nonzero, h.storable, h.scale, h.currency_eq⟩

theorem books_of_valid {o : Order} {currency : Currency} (h : o.Valid currency) :
    o.amount.Books currency :=
  ⟨isZero_of_isPositive h.positive, h.storable, scale_of_isStorable h.storable, h.currency_eq⟩

end Money

namespace Memory

/-- The stores reached from one with nothing in it under fixed settings, with the submissions on the way,
the latest first. -/
inductive ReachedBy (settings : Settings) : List Submission → Memory → Prop
  | empty : ReachedBy settings [] .empty
  | submit {qs : List Submission} {m : Memory} (hm : ReachedBy settings qs m) (q : Submission)
      (hsettings : q.settings = settings) (hfresh : m.operations.get? q.operationId = none)
      (schedule : List Disturbance) : ReachedBy settings (q :: qs) (q.submit schedule m).2
  | edit {qs : List Submission} {m : Memory} (hm : ReachedBy settings qs m) (e : Edit) :
      ReachedBy settings qs (m.edit e)
  | reconcile {qs : List Submission} {m : Memory} (hm : ReachedBy settings qs m) (stamp : Stamp)
      (currency : Currency) (account : AccountId) (expected : Decimal) (schedule : List Disturbance) :
      ReachedBy settings qs ((Reconciliation.reconcile stamp currency account expected).run
        backend.disturbed (schedule, m)).state.2

/-- The latest submission under an id. -/
def submissionOf? (qs : List Submission) (id : OperationId) : Option Submission :=
  qs.find? fun q => q.operationId == id

/-- A ledger in order, as it is under fixed settings after a run of submissions. -/
structure WellFormed (settings : Settings) (qs : List Submission) (m : Memory) : Prop where
  processed : ∀ {id op}, m.operations.get? id = some op →
    op.id = id ∧ op.status = .processed ∧ op.processedAt.isSome = true ∧ op.failureReason = none
  /-- The latest submission under the id of an operation booked it. -/
  booked : ∀ {id op}, m.operations.get? id = some op →
    ∃ (q : Submission) (mv : Movement), submissionOf? qs id = some q ∧ q.settings = settings ∧
      q.CarriedOut mv ⟨op, m.entriesOfOperation id⟩
  amounts : ∀ {e}, e ∈ m.entries → e.amount.Books settings.currency ∧ e.direction.Carries e.amount
  settlements : ∀ {e}, e ∈ m.entries → e.purpose.isSettlement = true →
    ∃ a, m.accounts.get? e.account = some a ∧ (a.kind = .system ∨ a.kind = .transit)
  linked : ∀ {e}, e ∈ m.entries →
    (∃ op, m.operations.get? e.operation = some op) ∧ ∃ a, m.accounts.get? e.account = some a
  /-- The index has the reference of every stored operation, and no others. -/
  index : ∀ r id, m.owners.get? r = some id ↔ ∃ op, m.operations.get? id = some op ∧ op.reference = r

variable {m : Memory}

/-- Every entry is one of a posting. -/
theorem Reached.exists_books {allowed : Settings → Prop} (h : m.Reached allowed) {e : Entry}
    (he : e ∈ m.entries) : ∃ q : Submission, allowed q.settings ∧ ∃ o p, q.Books o p ∧ e ∈ p.entries := by
  obtain ⟨op, hop⟩ := h.consistent.linked he
  obtain ⟨q, hsettings, o, hbooks⟩ := h.consistent.posted hop
  exact ⟨q, hsettings, o, _, hbooks, List.mem_filter.2 ⟨he, beq_iff_eq.2 rfl⟩⟩

/-- Under settings of one currency every entry is in it, and fits its books. -/
theorem Reached.books {allowed : Settings → Prop} {currency : Currency} (h : m.Reached allowed)
    (hallowed : ∀ settings, allowed settings → settings.currency = currency) {e : Entry}
    (he : e ∈ m.entries) : e.amount.Books currency := by
  obtain ⟨q, hsettings, o, p, hbooks, hmem⟩ := h.exists_books he
  have hamount := Money.books_of_valid (Submission.order_valid hbooks.checked)
  rw [hallowed _ hsettings] at hamount
  rcases Movement.amount_of_mem_lines (hbooks.line_mem hmem) with hsame | hopposite
  · rw [show e.amount = o.amount from hsame]
    exact hamount
  · rw [show e.amount = o.amount.negate from hopposite]
    exact hamount.negate

/-! ### The submissions of a run -/

variable {settings : Settings} {qs : List Submission} {q : Submission} {p : Posting}

theorem reached_iff_exists_reachedBy : m.Reached (· = settings) ↔ ∃ qs, m.ReachedBy settings qs := by
  constructor
  · intro h
    induction h with
    | empty => exact ⟨[], .empty⟩
    | submit hm q hsettings hfresh schedule ih =>
        obtain ⟨qs, hqs⟩ := ih
        exact ⟨q :: qs, hqs.submit q hsettings hfresh schedule⟩
    | edit hm e ih =>
        obtain ⟨qs, hqs⟩ := ih
        exact ⟨qs, hqs.edit e⟩
    | reconcile hm stamp currency account expected schedule ih =>
        obtain ⟨qs, hqs⟩ := ih
        exact ⟨qs, hqs.reconcile stamp currency account expected schedule⟩
  · rintro ⟨qs, h⟩
    induction h with
    | empty => exact .empty
    | submit hm q hsettings hfresh schedule ih => exact ih.submit q hsettings hfresh schedule
    | edit hm e ih => exact ih.edit e
    | reconcile hm stamp currency account expected schedule ih =>
        exact ih.reconcile stamp currency account expected schedule

theorem submissionOf?_cons_self (q : Submission) (qs : List Submission) :
    submissionOf? (q :: qs) q.operationId = some q :=
  List.find?_cons_of_pos (beq_self_eq_true q.operationId)

theorem submissionOf?_cons_of_ne {id : OperationId} (h : q.operationId ≠ id) :
    submissionOf? (q :: qs) id = submissionOf? qs id :=
  List.find?_cons_of_neg (by rwa [beq_iff_eq])

/-- The posting of the latest submission under its id. -/
def PostedBy (settings : Settings) (qs : List Submission) (p : Posting) : Prop :=
  ∃ q, submissionOf? qs p.operation.id = some q ∧ q.settings = settings ∧ ∃ o, q.Books o p

theorem PostedBy.proper (h : PostedBy settings qs p) : p.Proper := by
  obtain ⟨q, -, -, o, hbooks⟩ := h
  exact hbooks.proper

/-- One more submission takes nothing from what is stored, since its id is new. -/
theorem Consistent.cons_submission {suits : Entry → Account → Prop}
    (hm : m.Consistent (PostedBy settings qs) suits) (hfresh : m.operations.get? q.operationId = none) :
    m.Consistent (PostedBy settings (q :: qs)) suits := by
  refine ⟨hm.indexed, ?_, hm.linked, hm.placed⟩
  intro id op hop
  obtain ⟨q', hq', hbooked⟩ := hm.posted hop
  refine ⟨q', ?_, hbooked⟩
  rw [← hq']
  refine submissionOf?_cons_of_ne fun hid => ?_
  rw [hid, show op.id = id from hm.indexed.keyed hop, hop] at hfresh
  cases hfresh

/-- **Every stored operation is the one that the latest submission under its id booked.** -/
theorem ReachedBy.consistent (h : m.ReachedBy settings qs) :
    m.Consistent (PostedBy settings qs) fun e a => e.purpose.isSettlement = true → a.kind.canSettle = true := by
  induction h with
  | empty => exact .empty
  | submit hm q hsettings hfresh schedule ih =>
      refine (q.submit_acts ih.indexed hfresh schedule).consistent (ih.cons_submission hfresh) ?_ ?_
      · intro o p hbooks
        refine ⟨q, ?_, hsettings, o, hbooks⟩
        rw [hbooks.id_eq]
        exact submissionOf?_cons_self q _
      · intro o p hbooks hclear e a he ha
        exact hbooks.suits (hclear rfl) he ha
  | edit hm e ih => exact ih.of_sameBooks (ih.edit PostedBy.proper e)
  | reconcile hm stamp currency account expected schedule ih =>
      exact ih.of_sameBooks (sameBooks_reconcile stamp currency account expected schedule _)

theorem ReachedBy.booked (h : m.ReachedBy settings qs) {id : OperationId} {op : Operation}
    (hop : m.operations.get? id = some op) :
    ∃ (q : Submission) (mv : Movement), submissionOf? qs id = some q ∧ q.settings = settings ∧
      q.CarriedOut mv ⟨op, m.entriesOfOperation id⟩ := by
  obtain ⟨q, hq, hsettings, o, hbooks⟩ := h.consistent.posted hop
  refine ⟨q, o.movement, ?_, hsettings, hbooks.carriedOut⟩
  rw [← h.consistent.indexed.keyed hop]
  exact hq

/-- The entries of a stored operation are the lines of a movement of its kind. -/
theorem Reached.lines_of_stored (h : m.Reached (· = settings)) {id : OperationId} {op : Operation}
    (hop : m.operations.get? id = some op) :
    ∃ (mv : Movement) (amount : Money), mv.kind = op.kind ∧
      (∀ source target, mv = .transfer source target → source ≠ target) ∧ amount.isPositive = true ∧
      (m.entriesOfOperation id).map Entry.line = mv.lines settings.settlementAccount amount := by
  obtain ⟨qs, hqs⟩ := reached_iff_exists_reachedBy.1 h
  obtain ⟨q, mv, -, rfl, hout⟩ := hqs.booked hop
  exact ⟨mv, _, hout.kind.symm, hout.distinct, hout.positive, hout.lines⟩

/-- **Every ledger that is reached under fixed settings is well-formed.** -/
theorem wellFormed_of_reached (settings : Settings) (h : m.ReachedBy settings qs) :
    m.WellFormed settings qs := by
  have hm := h.consistent
  have hreached : m.Reached (· = settings) := reached_iff_exists_reachedBy.2 ⟨qs, h⟩
  refine ⟨?_, ?_, ?_, ?_, ?_, hm.indexed.owner_iff⟩
  · intro id op hop
    obtain ⟨q, -, -, o, hbooks⟩ := hm.posted hop
    refine ⟨hm.indexed.keyed hop, ?_⟩
    rw [show op = q.operation o from hbooks.operation]
    exact ⟨rfl, rfl, rfl⟩
  · exact fun hop => h.booked hop
  · exact fun {e} he => ⟨hreached.books (fun _ => congrArg Settings.currency) he, e.carries⟩
  · intro e he hsettles
    obtain ⟨a, ha, hsuits⟩ := hm.placed he
    refine ⟨a, ha, ?_⟩
    have hfit := hsuits hsettles
    cases hkind : a.kind with
    | user => rw [hkind] at hfit; cases hfit
    | system => exact Or.inl rfl
    | transit => exact Or.inr rfl
  · intro e he
    obtain ⟨a, ha, -⟩ := hm.placed he
    exact ⟨hm.linked he, a, ha⟩

/-- A deposit whose other side is taken by the account with id 2. -/
def settledDeposit : Submission :=
  { Submission.twoDeposits false with settings := ⟨.brl, "api", some ⟨⟨2⟩⟩⟩ }

/-- The store after a deposit that settles. -/
def onceSettled : Memory :=
  (settledDeposit.submit [] (opened.edit (.insertAccount ⟨⟨⟨2⟩⟩, .system, .ofNanos 0⟩))).2

theorem wellFormed_onceSettled :
    onceSettled.ReachedBy settledDeposit.settings [settledDeposit] ∧
    onceSettled.entries.length = 2 ∧
    onceSettled.WellFormed settledDeposit.settings [settledDeposit] := by
  have hreached : onceSettled.ReachedBy settledDeposit.settings [settledDeposit] := by
    refine .submit (.edit (.edit .empty (.insertAccount Submission.depositAccount)) _) settledDeposit ?_ ?_ []
    · rfl
    · rfl
  exact ⟨hreached, rfl, wellFormed_of_reached settledDeposit.settings hreached⟩

end Memory
end Daybook
