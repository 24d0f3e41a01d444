import Daybook.Proofs.Booking.Convergence

/-!
What a booking does to the balances. A balance is the exact sum of the entries of an account, in
whatever order they are read. A booking adds to it what its movement has for the account, and what the
settlement account takes as the other side (`Booking.booking_moves_amount`). A deposit therefore raises
the balance of its account by the amount, and a withdrawal lowers it, unless that account is the
settlement account itself: then the two sides cancel, and the balance stays as it is
(`Booking.deposit_cancelled`).
-/

namespace Daybook

namespace Entry.Line

/-- What lines bring to an account. -/
def totalOn (id : AccountId) (ls : List Line) : Rat :=
  total (ls.filter (·.account == id))

theorem totalOn_nil (id : AccountId) : totalOn id [] = 0 :=
  rfl

theorem totalOn_cons (id : AccountId) (l : Line) (ls : List Line) :
    totalOn id (l :: ls) = (if l.account = id then l.amount.value else 0) + totalOn id ls := by
  by_cases haccount : l.account = id <;> simp [totalOn, haccount]

theorem totalOn_append (id : AccountId) (ls ls' : List Line) :
    totalOn id (ls ++ ls') = totalOn id ls + totalOn id ls' := by
  rw [totalOn, List.filter_append, total_append, totalOn, totalOn]

theorem totalOn_flatMap {α : Type} (id : AccountId) (as : List α) (f : α → List Line) :
    totalOn id (as.flatMap f) = (as.map fun a => totalOn id (f a)).sum := by
  induction as with
  | nil => rfl
  | cons a as ih => rw [List.flatMap_cons, totalOn_append, ih, List.map_cons, List.sum_cons]

end Entry.Line

namespace Movement

/-- What a movement of an amount has for an account of its own. -/
def change (amount : Rat) (id : AccountId) : Movement → Rat
  | .deposit target => if target = id then amount else 0
  | .withdrawal source => if source = id then -amount else 0
  | .transfer source target =>
      (if source = id then -amount else 0) + if target = id then amount else 0

/-- What it has for the settlement account, as the other side. -/
def counterpart (settlement : Option AccountId) (amount : Rat) (id : AccountId) : Movement → Rat
  | .deposit _ => if settlement = some id then -amount else 0
  | .withdrawal _ => if settlement = some id then amount else 0
  | .transfer _ _ => 0

/-- The lines of a movement bring these two to an account. -/
theorem totalOn_lines (mv : Movement) (settlement : Option AccountId) (amount : Money) (id : AccountId) :
    Entry.Line.totalOn id (mv.lines settlement amount) =
      mv.change amount.value id + mv.counterpart settlement amount.value id := by
  cases mv with
  | transfer source target =>
      simp only [lines, Entry.Line.totalOn_cons, Entry.Line.totalOn_nil, change, counterpart,
        Money.value_negate]
      ring
  | _ =>
      cases settlement <;>
        simp [lines, Entry.Line.totalOn_cons, Entry.Line.totalOn_nil, change, counterpart]

variable {mv : Movement} {settlement : Option AccountId} {id : AccountId}

theorem change_of_not_mem (amount : Rat) (h : id ∉ mv.accounts) : mv.change amount id = 0 := by
  cases mv with
  | deposit target =>
      have hother : id ≠ target := by simpa [accounts] using h
      simp [change, hother.symm]
  | withdrawal source =>
      have hother : id ≠ source := by simpa [accounts] using h
      simp [change, hother.symm]
  | transfer source target =>
      obtain ⟨hsource, htarget⟩ : id ≠ source ∧ id ≠ target := by simpa [accounts] using h
      simp [change, hsource.symm, htarget.symm]

theorem counterpart_of_ne (amount : Rat) (h : settlement ≠ some id) :
    mv.counterpart settlement amount id = 0 := by
  cases mv <;> simp [counterpart, h]

end Movement

/-! ### Balances -/

namespace Memory

/-- The exact balance of an account. -/
def balance (m : Memory) (id : AccountId) : Rat :=
  Entry.exactTotal (m.entriesOf id)

theorem balance_eq (m : Memory) (id : AccountId) :
    m.balance id = Entry.Line.totalOn id (m.entries.map Entry.line) := by
  rw [balance, Entry.exactTotal_eq]
  exact Entry.Line.total_perm (Booking.lines_entriesOf_perm m id)

theorem balance_post (m : Memory) (p : Posting) (id : AccountId) :
    (m.post p).balance id = m.balance id + Entry.Line.totalOn id (p.entries.map Entry.line) := by
  rw [balance_eq, balance_eq, post, List.map_append, Entry.Line.totalOn_append]

end Memory

/-! ### Bookings -/

/-- The balances after a movement of an amount, where an account may take the other side of deposits
and withdrawals. -/
structure Movement.Moves (settlement : Option AccountId) (mv : Movement) (amount : Rat)
    (m m' : Memory) : Prop where
  positive : 0 < amount
  /-- A deposit raises the balance by the amount, unless it comes from the same account. -/
  deposit : ∀ {target}, mv = .deposit target → settlement ≠ some target →
    m'.balance target = m.balance target + amount
  /-- A withdrawal lowers the balance by the amount, unless it goes to the same account. -/
  withdrawal : ∀ {source}, mv = .withdrawal source → settlement ≠ some source →
    m'.balance source = m.balance source - amount
  transfer : ∀ {source target}, mv = .transfer source target →
    m'.balance source = m.balance source - amount ∧ m'.balance target = m.balance target + amount
  others : ∀ {id}, id ∉ mv.accounts → settlement ≠ some id → m'.balance id = m.balance id
  /-- With both sides on one account its balance stays. -/
  cancelled : ∀ {id}, mv = .deposit id ∨ mv = .withdrawal id → settlement = some id →
    m'.balance id = m.balance id

namespace Submission.Books

variable {q : Submission} {o : Order} {p : Posting}

/-- The two sides of the movement are added to the balance of each account. -/
theorem balance_post (h : q.Books o p) (m : Memory) (id : AccountId) :
    (m.post p).balance id = m.balance id + o.movement.change o.amount.value id +
      o.movement.counterpart q.settings.settlementAccount o.amount.value id := by
  rw [m.balance_post, h.lines_settings, Movement.totalOn_lines, add_assoc]

theorem moves (h : q.Books o p) (m : Memory) :
    o.movement.Moves q.settings.settlementAccount o.amount.value m (m.post p) := by
  have hvalid := order_valid h.checked
  refine ⟨?_, ?_, ?_, ?_, ?_, ?_⟩
  · exact (Decimal.value_pos_iff _).2 (Money.isPositive_iff.1 hvalid.positive)
  · intro target hmv hother
    rw [h.balance_post, Movement.counterpart_of_ne _ hother, hmv]
    simp [Movement.change]
  · intro source hmv hother
    rw [h.balance_post, Movement.counterpart_of_ne _ hother, hmv]
    simp [Movement.change, sub_eq_add_neg]
  · intro source target hmv
    have hne : source ≠ target := hvalid.distinct hmv
    rw [h.balance_post, h.balance_post, hmv]
    simp [Movement.change, Movement.counterpart, hne, hne.symm, sub_eq_add_neg]
  · intro id hid hother
    rw [h.balance_post, Movement.counterpart_of_ne _ hother, Movement.change_of_not_mem _ hid,
      add_zero, add_zero]
  · intro id hmv hsame
    rw [h.balance_post]
    rcases hmv with hmv | hmv <;> simp [hmv, hsame, Movement.change, Movement.counterpart]

end Submission.Books

namespace Booking

/-- **A booking moves its amount and nothing else.** Whatever happens around a submission: if it
answers with an operation that was not there before, the command asks for a movement, and the balances
are moved by the amount of the command, rounded. -/
theorem booking_moves_amount {m : Memory} (hm : m.Reached fun _ => True) (q : Submission)
    (hfresh : m.operations.get? q.operationId = none) (schedule : List Disturbance) {op : Operation}
    (hresult : (q.submit schedule m).1 = .ok op) (hnew : m.operations.get? op.id = none) :
    ∃ mv : Movement, q.command.Asks mv ∧
      mv.Moves q.settings.settlementAccount (Money.new q.command.amount q.settings.currency).value
        m (q.submit schedule m).2 := by
  have hindexed := hm.consistent.indexed
  have hacts := q.submit_acts hindexed hfresh schedule
  rw [hresult] at hacts
  generalize (q.submit schedule m).2 = m' at hacts ⊢
  cases hacts with
  | known checked found =>
      rw [(hindexed.find_iff.1 found).1] at hnew
      cases hnew
  | @booked o p books fresh free present clear =>
      obtain ⟨-, -, hamount, -⟩ := Command.check_eq_ok books.checked
      exact ⟨o.movement, Command.check_asks books.checked, hamount ▸ books.moves m⟩

/-- A store with an account for users and one that can settle. -/
def settling : Memory :=
  Memory.opened.edit (.insertAccount ⟨⟨⟨2⟩⟩, .system, .ofNanos 0⟩)

theorem booking_moves_settledDeposit :
    settling.Reached (fun _ => True) ∧
    ∃ mv : Movement, Memory.settledDeposit.command.Asks mv ∧
      mv.Moves (some ⟨⟨2⟩⟩) (Money.new Memory.settledDeposit.command.amount .brl).value settling
        (Memory.settledDeposit.submit [] settling).2 := by
  have hreached : settling.Reached fun _ => True := .edit Memory.reached_opened _
  refine ⟨hreached, ?_⟩
  exact booking_moves_amount hreached Memory.settledDeposit rfl [] rfl rfl

/-- A deposit of 10 on the settlement account itself. -/
def ownDeposit : Submission :=
  { Submission.counted (.deposit "R-1" ⟨⟨2⟩⟩ ((Decimal.ofNat? 10).getD .zero)) 10 with
    settings := ⟨.brl, "api", some ⟨⟨2⟩⟩⟩ }

/-- A deposit can be booked and raise nothing. -/
theorem deposit_cancelled :
    settling.Reached (fun _ => True) ∧ ownDeposit.command.Asks (.deposit ⟨⟨2⟩⟩) ∧
    settling.operations.get? ownDeposit.operationId = none ∧
    (∃ op, (ownDeposit.submit [] settling).1 = .ok op ∧ settling.operations.get? op.id = none) ∧
    (ownDeposit.submit [] settling).2.balance ⟨⟨2⟩⟩ ≠
      settling.balance ⟨⟨2⟩⟩ +
        (Money.new ownDeposit.command.amount ownDeposit.settings.currency).value := by
  refine ⟨.edit Memory.reached_opened _, ⟨rfl, rfl⟩, rfl, ⟨_, rfl, rfl⟩, ?_⟩
  rw [Memory.balance_eq, Memory.balance_eq]
  decide +kernel

end Booking
end Daybook
