import Daybook.Proofs.Booking.Conservation
import Mathlib.Data.Finset.Insert

/-!
Convergence. Commands that can be booked, each under a reference of its own, leave the same totals on
all accounts in whatever order they are sent, and however often (`Booking.bookings_converge`). The
orders that are booked are those of the commands, once each, so two runs differ at most in the order of
their entries.
-/

namespace Daybook

namespace Attempt

variable {a : Attempt} {m : Memory}

/-- Without disturbance an attempt is its script run on the store alone. -/
theorem go_eq_run (hcalm : a.schedule = []) (settings : Settings) (m : Memory) :
    a.go settings m = (((a.submission settings).script.run Memory.backend m).result,
      ((a.submission settings).script.run Memory.backend m).state) := by
  obtain ⟨hresult, hstate⟩ :=
    Script.run_undisturbed Memory.backend (a.submission settings).script m
  rw [go, hcalm, Submission.submit, hresult, hstate]

/-- Without disturbance an attempt does what the store decides. -/
theorem go_calm (hcalm : a.schedule = []) (settings : Settings) (hm : m.Indexed)
    (hfresh : m.operations.get? a.operationId = none) :
    a.go settings m = (a.submission settings).verdict m.accounts m :=
  (go_eq_run hcalm settings m).trans ((a.submission settings).run_eq_verdict hm hfresh)

end Attempt

namespace Booking

variable {settings : Settings} {commands : Finset Command} {attempts : List Attempt} {a : Attempt}
  {base m : Memory}

/-- All commands pass the checks and find their accounts, no two of them share a reference, and none
of the references is booked. -/
structure Bookable (settings : Settings) (commands : Finset Command) (m : Memory) : Prop where
  checked : ∀ {c}, c ∈ commands → ∃ o, c.check settings.currency settings.defaultSource = .ok o ∧
    m.findByReference o.reference = none ∧ ∀ id ∈ o.movement.accounts, m.accounts.contains id = true
  settles : ∀ {id}, settings.settlementAccount = some id →
    ∃ account, m.accounts.get? id = some account ∧ account.kind.canSettle = true
  distinct : ∀ {c c'}, c ∈ commands → c' ∈ commands →
    Reference.parse c.reference = Reference.parse c'.reference → c = c'

/-- The attempts are made with the commands, at least one with each, and all calls are heard. -/
structure Covers (commands : Finset Command) (attempts : List Attempt) : Prop where
  calm : ∀ {a}, a ∈ attempts → a.schedule = []
  within : ∀ {a}, a ∈ attempts → a.command ∈ commands
  all : ∀ {c}, c ∈ commands → ∃ a ∈ attempts, a.command = c

/-! ### One attempt -/

/-- The attempt succeeds, whatever has been booked by now. -/
theorem Bookable.go (h : Bookable settings commands base) (haccounts : m.accounts = base.accounts)
    (hm : m.Indexed) (hfresh : m.operations.get? a.operationId = none) (hcalm : a.schedule = [])
    (ha : a.command ∈ commands) : ∃ op, (a.go settings m).1 = .ok op := by
  obtain ⟨o, hchecked, -, haccountsOf⟩ := h.checked ha
  have horder : (a.submission settings).order = .ok o := hchecked
  rw [Attempt.go_calm hcalm settings hm hfresh, Submission.verdict, horder]
  cases hfind : m.findByReference o.reference with
  | some op => exact ⟨op, by simp only [hfind]⟩
  | none =>
      have hclear : (a.submission settings).obstacle m.accounts o = none := by
        rw [haccounts]
        refine Submission.obstacleAmong_of_present haccountsOf
          (Submission.settlementObstacle_eq_none fun {id} hid => h.settles ?_)
        rw [Submission.settlement] at hid
        split_ifs at hid
        exact hid
      obtain ⟨p, hbooks⟩ := Submission.exists_books horder
      simp only [hfind, hclear, hbooks.entries]
      exact ⟨_, rfl⟩

/-! ### A run -/

/-- Every attempt succeeds, and its order is found at the end. -/
theorem Bookable.run {allowed : Settings → Prop} (h : Bookable settings commands base)
    (haccounts : m.accounts = base.accounts) (hm : m.Reached allowed) (hallowed : allowed settings)
    (hfresh : Fresh attempts m) (hcalm : ∀ a ∈ attempts, a.schedule = [])
    (hwithin : ∀ a ∈ attempts, a.command ∈ commands) :
    (∀ r ∈ answers settings attempts m, ∃ op, r = .ok op) ∧
    ∀ a ∈ attempts, ∃ o op, (a.submission settings).order = .ok o ∧
      (after settings attempts m).findByReference o.reference = some op := by
  induction attempts generalizing m with
  | nil => exact ⟨List.forall_mem_nil _, List.forall_mem_nil _⟩
  | cons a attempts ih =>
      obtain ⟨hcalm, hcalms⟩ := List.forall_mem_cons.1 hcalm
      obtain ⟨hcommand, hcommands⟩ := List.forall_mem_cons.1 hwithin
      have hindexed := hm.consistent.indexed
      have hnext : (a.go settings m).2.Reached allowed :=
        hm.submit (a.submission settings) hallowed hfresh.head a.schedule
      have htail := hfresh.tail hindexed settings
      have hkept : (a.go settings m).2.accounts = m.accounts :=
        ((Tally.start settings m).go hm.consistent hfresh.head).accounts
      obtain ⟨hanswers, hfound⟩ := ih (hkept.trans haccounts) hnext htail hcalms hcommands
      obtain ⟨op, hop⟩ := h.go haccounts hindexed hfresh.head hcalm hcommand
      refine ⟨List.forall_mem_cons.2 ⟨⟨op, hop⟩, hanswers⟩, List.forall_mem_cons.2 ⟨?_, hfound⟩⟩
      have hacts := a.acts settings hindexed hfresh.head
      rw [hop] at hacts
      obtain ⟨o, horder, hfind⟩ := hacts.found
      refine ⟨o, op, horder, ?_⟩
      rw [after_cons]
      -- What is found now is found at the end, because operations stay stored as they are.
      exact (extends_after hnext.consistent.indexed htail).find hnext.consistent.indexed
        (reached_after hnext hallowed htail).consistent.indexed hfind

/-- The orders that are booked are those of the commands. -/
theorem Bookable.mem_bookings_iff {allowed : Settings → Prop} (h : Bookable settings commands m)
    (hm : m.Reached allowed) (hallowed : allowed settings) (hfresh : Fresh attempts m)
    (hcovers : Covers commands attempts) {o : Order} :
    o ∈ bookings settings attempts m ↔
      ∃ c ∈ commands, c.check settings.currency settings.defaultSource = .ok o := by
  constructor
  · intro ho
    obtain ⟨a, ha, horder⟩ := mem_bookings ho
    exact ⟨a.command, hcovers.within ha, horder⟩
  · rintro ⟨c, hc, hchecked⟩
    obtain ⟨a, ha, rfl⟩ := hcovers.all hc
    obtain ⟨-, hfound⟩ := h.run rfl hm hallowed hfresh (fun _ => hcovers.calm) fun _ => hcovers.within
    obtain ⟨o', op, horder, hfind⟩ := hfound a ha
    cases horder.symm.trans hchecked
    rcases (tally_after hm hallowed hfresh).known hfind with hbase | ⟨o', ho', hreference⟩
    · -- The reference was free before the run.
      obtain ⟨o', hchecked', hfree, -⟩ := h.checked hc
      cases hchecked.symm.trans hchecked'
      rw [hfree] at hbase
      cases hbase
    · -- The order with this reference is that of a command, and no other command has it.
      obtain ⟨b, hb, horder'⟩ := mem_bookings ho'
      change b.command.check settings.currency settings.defaultSource = .ok o' at horder'
      have hsame : b.command = a.command := by
        refine h.distinct (hcovers.within hb) hc ?_
        rw [(Command.check_eq_ok horder').1, (Command.check_eq_ok hchecked).1, hreference]
      rw [hsame, hchecked] at horder'
      cases horder'
      exact ho'

/-! ### Two runs -/

/-- The lines of an account are those of its entries, in the order of time. -/
theorem lines_entriesOf_perm (m : Memory) (id : AccountId) :
    ((m.entriesOf id).map Entry.line).Perm ((m.entries.map Entry.line).filter (·.account == id)) := by
  rw [List.filter_map]
  exact (List.mergeSort_perm _ _).map Entry.line

/-- Stores with the same lines have the same totals and as many entries on every account. -/
theorem totals_of_lines_perm {m m' : Memory}
    (h : (m.entries.map Entry.line).Perm (m'.entries.map Entry.line)) (id : AccountId) :
    Entry.exactTotal (m.entriesOf id) = Entry.exactTotal (m'.entriesOf id) ∧
      (m.entriesOf id).length = (m'.entriesOf id).length := by
  have haccount : ((m.entriesOf id).map Entry.line).Perm ((m'.entriesOf id).map Entry.line) :=
    ((lines_entriesOf_perm m id).trans (h.filter _)).trans (lines_entriesOf_perm m' id).symm
  refine ⟨?_, by simpa using haccount.length_eq⟩
  rw [Entry.exactTotal_eq, Entry.exactTotal_eq]
  exact Entry.Line.total_perm haccount

variable {left right : List Attempt}

/-- Two runs leave the same lines, in some order. -/
theorem Bookable.lines_perm {allowed : Settings → Prop} (h : Bookable settings commands m)
    (hm : m.Reached allowed) (hallowed : allowed settings) (hleft : Covers commands left)
    (hright : Covers commands right) (hfreshLeft : Fresh left m) (hfreshRight : Fresh right m) :
    ((after settings left m).entries.map Entry.line).Perm
      ((after settings right m).entries.map Entry.line) := by
  have htallyLeft := tally_after hm hallowed hfreshLeft
  have htallyRight := tally_after hm hallowed hfreshRight
  have horders : (bookings settings left m).Perm (bookings settings right m) := by
    refine (List.perm_ext_iff_of_nodup (.of_map _ htallyLeft.once) (.of_map _ htallyRight.once)).2 ?_
    intro o
    rw [h.mem_bookings_iff hm hallowed hfreshLeft hleft, h.mem_bookings_iff hm hallowed hfreshRight hright]
  rw [htallyLeft.lines, htallyRight.lines]
  exact (horders.flatMap_right _).append_left _

/-- **The order of arrival and repetitions make no difference.** Every attempt succeeds, and every
account has the same exact total and the same number of entries in the end. -/
theorem bookings_converge (hm : m.Reached fun _ => True) (h : Bookable settings commands m)
    (hleft : Covers commands left) (hright : Covers commands right) (hfreshLeft : Fresh left m)
    (hfreshRight : Fresh right m) :
    (∀ r ∈ answers settings left m ++ answers settings right m, ∃ op, r = .ok op) ∧
    ∀ id, Entry.exactTotal ((after settings left m).entriesOf id) =
        Entry.exactTotal ((after settings right m).entriesOf id) ∧
      ((after settings left m).entriesOf id).length =
        ((after settings right m).entriesOf id).length := by
  constructor
  · obtain ⟨hanswersLeft, -⟩ := h.run rfl hm trivial hfreshLeft (fun _ => hleft.calm) fun _ => hleft.within
    obtain ⟨hanswersRight, -⟩ :=
      h.run rfl hm trivial hfreshRight (fun _ => hright.calm) fun _ => hright.within
    exact List.forall_mem_append.2 ⟨hanswersLeft, hanswersRight⟩
  · exact totals_of_lines_perm (h.lines_perm hm trivial hleft hright hfreshLeft hfreshRight)

/-- The attempt to deposit 5. -/
def paying (n : Nat) : Attempt :=
  counted (.deposit "R-2" Submission.depositAccount.id ((Decimal.ofNat? 5).getD .zero)) n []

/-- The attempt to withdraw 2. -/
def drawing (n : Nat) : Attempt :=
  counted (.withdrawal " R-3 " Submission.depositAccount.id ((Decimal.ofNat? 2).getD .zero)) n []

def payAndDraw : Finset Command :=
  {(paying 0).command, (drawing 0).command}

theorem bookable_payAndDraw : Bookable .default payAndDraw .onceDeposited where
  checked := by
    intro c hc
    rcases Finset.mem_insert.1 hc with rfl | hc
    · exact ⟨_, rfl, rfl, by decide⟩
    · rw [Finset.mem_singleton.1 hc]
      exact ⟨_, rfl, rfl, by decide⟩
  settles := nofun
  distinct := by
    have hdistinct : ∀ c ∈ payAndDraw, ∀ c' ∈ payAndDraw,
        Reference.parse c.reference = Reference.parse c'.reference → c = c' := by decide
    intro c c' hc hc'
    exact hdistinct c hc c' hc'

def payingFirst : List Attempt :=
  [paying 20, drawing 30]

def drawingFirst : List Attempt :=
  [drawing 20, drawing 30, paying 40, drawing 50, paying 60]

/-- On a ledger that has seen a deposit already, it makes no difference which of the two comes first. -/
theorem bookings_converge_payAndDraw :
    Bookable .default payAndDraw .onceDeposited ∧
    Covers payAndDraw payingFirst ∧ Covers payAndDraw drawingFirst ∧
    Fresh payingFirst .onceDeposited ∧ Fresh drawingFirst .onceDeposited ∧
    (∀ r ∈ answers .default drawingFirst .onceDeposited, ∃ op, r = .ok op) ∧
    Entry.exactTotal ((after .default payingFirst .onceDeposited).entriesOf ⟨⟨1⟩⟩) =
      Entry.exactTotal ((after .default drawingFirst .onceDeposited).entriesOf ⟨⟨1⟩⟩) := by
  have hpaying : Covers payAndDraw payingFirst := ⟨by decide, by decide, by decide⟩
  have hdrawing : Covers payAndDraw drawingFirst := ⟨by decide, by decide, by decide⟩
  have hfreshPaying : Fresh payingFirst .onceDeposited := ⟨by decide, by decide⟩
  have hfreshDrawing : Fresh drawingFirst .onceDeposited := ⟨by decide, by decide⟩
  obtain ⟨hanswers, htotals⟩ := bookings_converge (Memory.reached_onceDeposited trivial)
    bookable_payAndDraw hpaying hdrawing hfreshPaying hfreshDrawing
  refine ⟨bookable_payAndDraw, hpaying, hdrawing, hfreshPaying, hfreshDrawing, ?_, (htotals ⟨⟨1⟩⟩).1⟩
  exact (List.forall_mem_append.1 hanswers).2

end Booking
end Daybook
