import Daybook.Proofs.Booking.Run
import Daybook.Proofs.Money.Value
import Mathlib.Algebra.BigOperators.Group.List.Basic
import Mathlib.Algebra.Field.Rat
import Mathlib.Tactic.Ring

/-!
Conservation. Totals are taken as rational numbers, so nothing is rounded and nothing overflows. The
lines of an order come to nothing if the order has two sides, and otherwise to its amount, with the
sign of its kind; so all entries of a run come to nothing, or to what was deposited less what was
withdrawn, with each reference counted once (`Booking.run_conserves`).
-/

namespace Daybook

namespace Entry

/-- The exact sum of lines. -/
def Line.total (ls : List Line) : Rat :=
  (ls.map (·.amount.value)).sum

/-- The exact sum of entries. -/
def exactTotal (es : List Entry) : Rat :=
  (es.map (·.amount.value)).sum

theorem exactTotal_eq (es : List Entry) : exactTotal es = Line.total (es.map Entry.line) := by
  rw [exactTotal, Line.total, List.map_map]
  rfl

namespace Line

@[simp]
theorem total_nil : total [] = 0 :=
  rfl

@[simp]
theorem total_cons (l : Line) (ls : List Line) : total (l :: ls) = l.amount.value + total ls :=
  List.sum_cons

theorem total_append (ls ls' : List Line) : total (ls ++ ls') = total ls + total ls' := by
  rw [total, List.map_append, List.sum_append]
  rfl

/-- The order of the lines makes no difference. -/
theorem total_perm {ls ls' : List Line} (h : ls.Perm ls') : total ls = total ls' :=
  (h.map _).sum_eq

end Line

end Entry

/-! ### Orders -/

namespace Movement

/-- Lines with two sides come to nothing. -/
theorem total_lines {mv : Movement} {settlement : Option AccountId} (amount : Money)
    (h : settlement.isSome = true ∨ mv.kind = .transfer) :
    Entry.Line.total (mv.lines settlement amount) = 0 := by
  cases mv with
  | deposit target =>
      obtain ⟨account, rfl⟩ := Option.isSome_iff_exists.1 (h.resolve_right (by simp [kind]))
      simp [lines]
  | withdrawal source =>
      obtain ⟨account, rfl⟩ := Option.isSome_iff_exists.1 (h.resolve_right (by simp [kind]))
      simp [lines]
  | transfer source target => simp [lines]

/-- Without a settlement account a deposit brings its amount in, and a withdrawal takes it out. -/
theorem total_lines_none (mv : Movement) (amount : Money) :
    Entry.Line.total (mv.lines none amount) =
      (if mv.kind = .deposit then amount.value else 0) -
        if mv.kind = .withdrawal then amount.value else 0 := by
  cases mv with
  | deposit target => simp [lines, kind]
  | withdrawal source => simp [lines, kind]
  | transfer source target => simp [lines, kind]

end Movement

namespace Order

/-- What the orders of a kind amount to. -/
def turnover (kind : Operation.Kind) (orders : List Order) : Rat :=
  ((orders.filter (·.movement.kind = kind)).map (·.amount.value)).sum

theorem turnover_cons (kind : Operation.Kind) (o : Order) (orders : List Order) :
    turnover kind (o :: orders) =
      (if o.movement.kind = kind then o.amount.value else 0) + turnover kind orders := by
  by_cases hkind : o.movement.kind = kind <;> simp [turnover, hkind]

variable {settings : Settings}

theorem total_of_settled (h : settings.settlementAccount.isSome = true) (orders : List Order) :
    Entry.Line.total (orders.flatMap (lines settings)) = 0 := by
  induction orders with
  | nil => rfl
  | cons o orders ih =>
      rw [List.flatMap_cons, Entry.Line.total_append, ih, lines,
        Movement.total_lines o.amount (Or.inl h), add_zero]

theorem total_of_unsettled (h : settings.settlementAccount = none) (orders : List Order) :
    Entry.Line.total (orders.flatMap (lines settings)) =
      turnover .deposit orders - turnover .withdrawal orders := by
  induction orders with
  | nil => exact (sub_zero _).symm
  | cons o orders ih =>
      rw [List.flatMap_cons, Entry.Line.total_append, ih, lines, h, Movement.total_lines_none,
        turnover_cons, turnover_cons]
      ring

end Order

/-! ### The store before a run -/

namespace Memory

/-- A store with accounts and nothing else. -/
def holding (accounts : List Account) : Memory :=
  accounts.foldl (fun m a => m.edit (.insertAccount a)) .empty

theorem reached_insertAccounts {allowed : Settings → Prop} {m : Memory} (hm : m.Reached allowed)
    (accounts : List Account) :
    (accounts.foldl (fun m a => m.edit (.insertAccount a)) m).Reached allowed ∧
      m.SameBooks (accounts.foldl (fun m a => m.edit (.insertAccount a)) m) := by
  induction accounts generalizing m with
  | nil => exact ⟨hm, .refl m⟩
  | cons a accounts ih =>
      obtain ⟨hreached, hsame⟩ := ih (hm.edit (.insertAccount a))
      exact ⟨hreached, (sameBooks_insertAccount m a).trans hsame⟩

theorem reached_holding (allowed : Settings → Prop) (accounts : List Account) :
    (holding accounts).Reached allowed :=
  (reached_insertAccounts .empty accounts).1

/-- There are no operations and no entries yet. -/
theorem sameBooks_holding (accounts : List Account) : SameBooks .empty (holding accounts) :=
  (reached_insertAccounts (Reached.empty : Reached (fun _ => True) .empty) accounts).2

end Memory

namespace Booking

/-- **A run loses nothing, doubles nothing and unbalances nothing.** The references of the orders that
it books are those of the stored operations, each once, and the entries of an operation are the lines
of its order. Where there are two sides, an operation comes to nothing; with a settlement account so do
all entries together; and without one they come to what was deposited less what was withdrawn. -/
theorem run_conserves (settings : Settings) (accounts : List Account) (attempts : List Attempt)
    (hids : (attempts.map (·.operationId)).Nodup) :
    let m := after settings attempts (.holding accounts)
    let orders := bookings settings attempts (.holding accounts)
    (orders.map (·.reference)).Nodup ∧
    (∀ o ∈ orders, ∃ op, m.findByReference o.reference = some op ∧ op.kind = o.movement.kind ∧
      (m.entriesOfOperation op.id).map Entry.line = o.lines settings) ∧
    (∀ id op, m.operations.get? id = some op →
      (∃ o ∈ orders, o.reference = op.reference) ∧
      (settings.settlementAccount.isSome = true ∨ op.kind = .transfer →
        Entry.exactTotal (m.entriesOfOperation id) = 0)) ∧
    (settings.settlementAccount.isSome = true → Entry.exactTotal m.entries = 0) ∧
    (settings.settlementAccount = none →
      Entry.exactTotal m.entries = Order.turnover .deposit orders - Order.turnover .withdrawal orders) := by
  intro m orders
  have hbase : (Memory.holding accounts).Reached (· = settings) := Memory.reached_holding _ accounts
  have hbooks := Memory.sameBooks_holding accounts
  have hfresh : Fresh attempts (.holding accounts) := by
    refine ⟨hids, fun _ => ?_⟩
    rw [hbooks.operations]
    rfl
  have hm : m.Reached (· = settings) := reached_after hbase rfl hfresh
  have htally : Tally settings (.holding accounts) orders m := tally_after hbase rfl hfresh
  have htotal : Entry.exactTotal m.entries = Entry.Line.total (orders.flatMap (Order.lines settings)) := by
    rw [Entry.exactTotal_eq, htally.lines, hbooks.entries]
    rfl
  refine ⟨htally.once, fun o ho => htally.stored ho, ?_, ?_, ?_⟩
  · intro id op hop
    constructor
    · have hfind : m.findByReference op.reference = some op :=
        hm.consistent.indexed.find_iff.2 ⟨by rwa [hm.consistent.indexed.keyed hop], rfl⟩
      have hnone : (Memory.holding accounts).findByReference op.reference = none := by
        rw [Memory.findByReference, hbooks.owners]
        rfl
      refine (htally.known hfind).resolve_left ?_
      rw [hnone]
      exact (Option.some_ne_none op).symm
    · intro htwo
      obtain ⟨mv, amount, hkind, -, -, hlines⟩ := hm.lines_of_stored hop
      rw [Entry.exactTotal_eq, hlines]
      exact Movement.total_lines amount (by rwa [hkind])
  · exact fun h => htotal.trans (Order.total_of_settled h orders)
  · exact fun h => htotal.trans (Order.total_of_unsettled h orders)

/-- The attempt to book a command, with stamps counted from a number. -/
def counted (command : Command) (n : Nat) (schedule : List Disturbance) : Attempt :=
  ⟨(Submission.counted command n).stamps, command, schedule⟩

/-- A deposit of 10, another one of 20 under the same reference that does not see the first, and a
withdrawal of 3 that fails once. -/
def fourAttempts : List Attempt :=
  let account := Submission.depositAccount.id
  let amount (n : Nat) := (Decimal.ofNat? n).getD .zero
  [counted (.deposit "R-1" account (amount 10)) 10 [],
    counted (.deposit " R-1 " account (amount 20)) 20 [.oversight],
    counted (.withdrawal "R-2" account (amount 3)) 30 [.none, .failure (.backend "down")],
    counted (.withdrawal "R-2" account (amount 3)) 40 []]

theorem run_conserves_fourAttempts :
    (fourAttempts.map (·.operationId)).Nodup ∧
      Entry.exactTotal (after .default fourAttempts (.holding [Submission.depositAccount])).entries =
        7 := by
  have hids : (fourAttempts.map (·.operationId)).Nodup := by decide
  obtain ⟨-, -, -, -, htotal⟩ := run_conserves .default [Submission.depositAccount] fourAttempts hids
  refine ⟨hids, (htotal rfl).trans ?_⟩
  decide +kernel

end Booking
end Daybook
