import Daybook.Proofs.Booking.Balances
import Daybook.Proofs.Booking.Checking
import Daybook.Proofs.Booking.Counting

/-!
Runs of commands under different references. Such a command does not notice that the others are booked
(`Attempt.go_untouched`): all are answered exactly if each of them would be at the beginning
(`Batch.answered_iff`), and then the orders under references that were free are the ones that are booked
(`Batch.bookings_eq`). So the order of the commands makes no difference (`Batch.books_agree`), also where
some of them have been booked before, or cannot be booked.
-/

namespace Daybook

/-- Nothing is in the way of the order: its accounts are there, and the settlement account can settle
where one is needed. -/
structure Order.Clear (settings : Settings) (A : Table AccountId Account) (o : Order) : Prop where
  present : ∀ id ∈ o.movement.accounts, A.contains id = true
  settles : o.movement.isTransfer = false → ∀ id, settings.settlementAccount = some id →
    ∃ account, A.get? id = some account ∧ account.kind.canSettle = true

theorem Submission.obstacle_eq_none_iff {q : Submission} {A : Table AccountId Account} {o : Order} :
    q.obstacle A o = none ↔ o.Clear q.settings A := by
  constructor
  · intro h
    obtain ⟨hpresent, hsettlement⟩ := obstacleAmong_eq_none h
    refine ⟨hpresent, fun htransfer id hid => settlement_settles hsettlement ?_⟩
    exact settlement_eq_some_iff.2 ⟨hid, htransfer⟩
  · rintro ⟨hpresent, hsettles⟩
    refine obstacleAmong_of_present hpresent (settlementObstacle_eq_none fun {id} hid => ?_)
    obtain ⟨hid, htransfer⟩ := settlement_eq_some_iff.1 hid
    exact hsettles htransfer id hid

namespace Command

variable {settings : Settings} {m m' : Memory} {c c' : Command}

/-- The order of the command. -/
def order (c : Command) (settings : Settings) : Except Error Order :=
  c.check settings.currency settings.defaultSource

/-- The command has an order, which is booked or can be. -/
def Passes (settings : Settings) (m : Memory) (c : Command) : Prop :=
  ∃ o, c.order settings = .ok o ∧ (m.findByReference o.reference = none → o.Clear settings m.accounts)

/-- The order of the command, if it has one and the reference is free. -/
def unbooked (settings : Settings) (m : Memory) (c : Command) : Option Order :=
  match c.order settings with
  | .ok o => if m.findByReference o.reference = none then some o else none
  | .error _ => none

/-- The orders of the two commands, if they have any, have different references. -/
def Differs (settings : Settings) (c c' : Command) : Prop :=
  ∀ {o o'}, c.order settings = .ok o → c'.order settings = .ok o' → o.reference ≠ o'.reference

/-- References differ where the trimmed texts do. -/
theorem differs_of_text (h : Text.trim c.reference ≠ Text.trim c'.reference) : c.Differs settings c' := by
  intro o o' ho ho' hsame
  have htext := Reference.parse_eq_ok_iff.1 (check_eq_ok ho).1
  have htext' := Reference.parse_eq_ok_iff.1 (check_eq_ok ho').1
  exact h (by rw [← htext, ← htext', hsame])

/-- The store is the same to the command. -/
structure Untouched (settings : Settings) (c : Command) (m m' : Memory) : Prop where
  accounts : m'.accounts = m.accounts
  found : ∀ {o}, c.order settings = .ok o → m'.findByReference o.reference = m.findByReference o.reference

theorem Untouched.passes_iff (h : c.Untouched settings m m') :
    c.Passes settings m' ↔ c.Passes settings m := by
  refine exists_congr fun o => and_congr_right fun ho => ?_
  rw [h.found ho, h.accounts]

theorem Untouched.unbooked_eq (h : c.Untouched settings m m') :
    c.unbooked settings m' = c.unbooked settings m := by
  rw [unbooked, unbooked]
  cases ho : c.order settings with
  | error e => rfl
  | ok o => simp only [h.found ho]

/-- The reference of the command, if it is one, is not booked. -/
def Free (m : Memory) (c : Command) : Prop :=
  ∀ r, Reference.parse c.reference = .ok r → m.findByReference r = none

theorem Passes.unbooked_of_free (h : c.Passes settings m) (hfree : c.Free m) :
    ∃ o, c.order settings = .ok o ∧ c.unbooked settings m = some o := by
  obtain ⟨o, ho, -⟩ := h
  refine ⟨o, ho, ?_⟩
  rw [unbooked, ho]
  exact if_pos (hfree _ (check_eq_ok ho).1)

/-- What a command for the movement brings to an account. -/
def moved (c : Command) (settings : Settings) (mv : Movement) (id : AccountId) : Rat :=
  mv.change (Money.new c.amount settings.currency).value id +
    mv.counterpart settings.settlementAccount (Money.new c.amount settings.currency).value id

theorem totalOn_lines {o : Order} {mv : Movement} (ho : c.order settings = .ok o) (hasks : c.Asks mv)
    (id : AccountId) : Entry.Line.totalOn id (o.lines settings) = c.moved settings mv id := by
  obtain ⟨-, -, hamount, -⟩ := check_eq_ok ho
  have hmovement : o.movement = mv := (check_asks ho).unique hasks
  rw [Order.lines, Movement.totalOn_lines, hmovement, hamount, moved]

end Command

namespace Attempt

variable {settings : Settings} {m : Memory} {a : Attempt} {c : Command} {op : Operation}

/-- An attempt is not noticed under other references. -/
theorem go_untouched (hm : m.Indexed) (hfresh : m.operations.get? a.operationId = none)
    (h : a.command.Differs settings c) : c.Untouched settings m (a.go settings m).2 := by
  rcases a.go_cases settings hm hfresh with ⟨-, hsame⟩ | ⟨o, p, -, hbooks, -, hposted⟩
  · rw [hsame]
    exact ⟨rfl, fun _ => rfl⟩
  · rw [hposted]
    refine ⟨rfl, fun {o'} ho' => Memory.find_post_of_ne hm (hbooks.id_eq ▸ hfresh) ?_⟩
    rw [hbooks.reference_eq]
    exact (h hbooks.checked ho').symm

/-- An attempt that is heard is answered with an operation exactly if its command passes. -/
theorem answered_iff (hcalm : a.schedule = []) (hm : m.Indexed)
    (hfresh : m.operations.get? a.operationId = none) :
    (∃ op, (a.go settings m).1 = .ok op) ↔ a.command.Passes settings m := by
  rw [go_calm hcalm settings hm hfresh, Submission.verdict]
  cases ho : (a.submission settings).order with
  | error e =>
      constructor
      · rintro ⟨op, hop⟩
        cases hop
      · rintro ⟨o, ho', -⟩
        cases ho.symm.trans ho'
  | ok o =>
      have hpasses : a.command.Passes settings m ↔
          (m.findByReference o.reference = none → o.Clear settings m.accounts) := by
        constructor
        · rintro ⟨o', ho', hclear⟩
          cases ho.symm.trans ho'
          exact hclear
        · exact fun hclear => ⟨o, ho, hclear⟩
      rw [hpasses]
      cases hfind : m.findByReference o.reference with
      | some op => simp [hfind]
      | none =>
          obtain ⟨p, hbooks⟩ := Submission.exists_books ho
          have hclear : (a.submission settings).obstacle m.accounts o = none ↔
              o.Clear settings m.accounts := Submission.obstacle_eq_none_iff
          rw [← hclear]
          cases hobstacle : (a.submission settings).obstacle m.accounts o with
          | some e => simp [hfind, hobstacle]
          | none => simp [hfind, hobstacle, hbooks.entries]

/-- Of an attempt that is answered, the order is booked if its reference was free. -/
theorem booked?_of_answered (hm : m.Indexed) (hfresh : m.operations.get? a.operationId = none)
    (hop : (a.go settings m).1 = .ok op) : a.booked? settings m = a.command.unbooked settings m := by
  have hacts := a.acts settings hm hfresh
  rw [hop] at hacts
  obtain ⟨o, ho, hfind⟩ := hacts.found
  change a.command.order settings = .ok o at ho
  rcases a.go_cases settings hm hfresh with ⟨hnone, hsame⟩ | ⟨o', p, hsome, hbooks, hfree, -⟩
  · rw [hsame] at hfind
    simp [hnone, Command.unbooked, ho, hfind]
  · have ho' : a.command.order settings = .ok o' := hbooks.checked
    rw [hbooks.reference_eq] at hfree
    simp [hsome, Command.unbooked, ho', hfree]

/-- What answers an attempt has the reference of the command, and is stored from then on. -/
theorem answer_found (hm : m.Indexed) (hfresh : m.operations.get? a.operationId = none)
    (hop : (a.go settings m).1 = .ok op) :
    op.reference.text = Text.trim a.command.reference ∧
      (a.go settings m).2.operations.get? op.id = some op := by
  have hacts := a.acts settings hm hfresh
  rw [hop] at hacts
  obtain ⟨o, ho, hfind⟩ := hacts.found
  obtain ⟨hstored, hreference⟩ := (a.indexed_go settings hm hfresh).find_iff.1 hfind
  refine ⟨?_, hstored⟩
  rw [hreference]
  exact Reference.parse_eq_ok_iff.1 (Command.check_eq_ok ho).1

end Attempt

namespace Booking

variable {settings : Settings} {attempts left right : List Attempt} {m : Memory} {ops : List Operation}

/-- The attempts are heard, and their commands have different references. -/
structure Batch (settings : Settings) (attempts : List Attempt) (m : Memory) : Prop where
  fresh : Fresh attempts m
  calm : ∀ {a}, a ∈ attempts → a.schedule = []
  differ : (attempts.map (·.command)).Pairwise (Command.Differs settings)

namespace Batch

theorem of_texts (hfresh : Fresh attempts m) (hcalm : ∀ {a}, a ∈ attempts → a.schedule = [])
    (htexts : (attempts.map fun a => Text.trim a.command.reference).Nodup) :
    Batch settings attempts m where
  fresh := hfresh
  calm := hcalm
  differ := List.pairwise_map.2 ((List.pairwise_map.1 htexts).imp Command.differs_of_text)

theorem untouched {a : Attempt} (h : Batch settings (a :: attempts) m) (hm : m.Indexed) {c : Command}
    (hc : c ∈ attempts.map (·.command)) : c.Untouched settings m (a.go settings m).2 :=
  Attempt.go_untouched hm h.fresh.head ((List.pairwise_cons.1 h.differ).1 c hc)

theorem tail {a : Attempt} (h : Batch settings (a :: attempts) m) (hm : m.Indexed) :
    Batch settings attempts (a.go settings m).2 where
  fresh := h.fresh.tail hm settings
  calm hb := h.calm (List.mem_cons_of_mem _ hb)
  differ := (List.pairwise_cons.1 h.differ).2

/-- **All are answered exactly if each of the commands passes at the beginning.** -/
theorem answered_iff (h : Batch settings attempts m) (hm : m.Indexed) :
    (∃ ops : List Operation, answers settings attempts m = ops.map .ok) ↔
      ∀ c ∈ attempts.map (·.command), c.Passes settings m := by
  induction attempts generalizing m with
  | nil => exact iff_of_true ⟨[], rfl⟩ (List.forall_mem_nil _)
  | cons a attempts ih =>
      have hrest := ih (h.tail hm) (a.indexed_go settings hm h.fresh.head)
      have hpasses : (∀ c ∈ attempts.map (·.command), c.Passes settings (a.go settings m).2) ↔
          ∀ c ∈ attempts.map (·.command), c.Passes settings m :=
        forall₂_congr fun c hc => (h.untouched hm hc).passes_iff
      rw [List.map_cons, List.forall_mem_cons, ← hpasses, ← hrest,
        ← Attempt.answered_iff (h.calm List.mem_cons_self) hm h.fresh.head]
      simp only [answers_cons_iff]
      constructor
      · rintro ⟨ops, op, rest, -, hop, hrest⟩
        exact ⟨⟨op, hop⟩, rest, hrest⟩
      · rintro ⟨⟨op, hop⟩, rest, hrest⟩
        exact ⟨_, op, rest, rfl, hop, hrest⟩

/-- **The orders under free references are booked.** -/
theorem bookings_eq (h : Batch settings attempts m) (hm : m.Indexed)
    (hanswers : answers settings attempts m = ops.map .ok) :
    bookings settings attempts m =
      (attempts.map (·.command)).filterMap (Command.unbooked settings m) := by
  induction attempts generalizing m ops with
  | nil => rfl
  | cons a attempts ih =>
      obtain ⟨op, rest, -, hop, hrest⟩ := answers_cons_iff.1 hanswers
      have hnext := ih (h.tail hm) (a.indexed_go settings hm h.fresh.head) hrest
      have hunbooked : (attempts.map (·.command)).filterMap (Command.unbooked settings (a.go settings m).2) =
          (attempts.map (·.command)).filterMap (Command.unbooked settings m) :=
        List.filterMap_congr fun c hc => (h.untouched hm hc).unbooked_eq
      rw [bookings, Attempt.booked?_of_answered hm h.fresh.head hop, hnext, hunbooked, List.map_cons,
        List.filterMap_cons]
      cases a.command.unbooked settings m <;> rfl

end Batch

/-- The answers have the references of the commands. -/
theorem texts_of_answers (hm : m.Indexed) (hfresh : Fresh attempts m)
    (hanswers : answers settings attempts m = ops.map .ok) :
    ops.map (·.reference.text) = attempts.map fun a => Text.trim a.command.reference := by
  induction attempts generalizing m ops with
  | nil =>
      cases List.map_eq_nil_iff.1 hanswers.symm
      rfl
  | cons a attempts ih =>
      obtain ⟨op, rest, rfl, hop, hrest⟩ := answers_cons_iff.1 hanswers
      rw [List.map_cons, List.map_cons, (Attempt.answer_found hm hfresh.head hop).1,
        ih (a.indexed_go settings hm hfresh.head) (hfresh.tail hm settings) hrest]

/-- What was answered is stored in the end. -/
theorem stored_of_answers (hm : m.Indexed) (hfresh : Fresh attempts m)
    (hanswers : answers settings attempts m = ops.map .ok) :
    ∀ op ∈ ops, (after settings attempts m).operations.get? op.id = some op := by
  induction attempts generalizing m ops with
  | nil =>
      cases List.map_eq_nil_iff.1 hanswers.symm
      exact List.forall_mem_nil _
  | cons a attempts ih =>
      obtain ⟨op, rest, rfl, hop, hrest⟩ := answers_cons_iff.1 hanswers
      have hindexed := a.indexed_go settings hm hfresh.head
      have htail := hfresh.tail hm settings
      rw [after_cons]
      refine List.forall_mem_cons.2 ⟨?_, ih hindexed htail hrest⟩
      exact extends_after hindexed htail _ _ (Attempt.answer_found hm hfresh.head hop).2

/-- Answers with different references are different operations. -/
theorem nodup_of_answers (hm : m.Indexed) (hfresh : Fresh attempts m)
    (hanswers : answers settings attempts m = ops.map .ok)
    (htexts : (attempts.map fun a => Text.trim a.command.reference).Nodup) :
    (ops.map (·.id)).Nodup := by
  rw [← texts_of_answers hm hfresh hanswers] at htexts
  have hstored := stored_of_answers hm hfresh hanswers
  refine (List.Nodup.of_map _ htexts).map_on fun op hop op' hop' hid => ?_
  have hsame := hstored op hop
  rw [hid, hstored op' hop'] at hsame
  exact (Option.some.inj hsame).symm

/-! ### Orders of a batch -/

section Orders

variable (hleft : Batch settings left m) (hright : Batch settings right m)
  (hcommands : (left.map (·.command)).Perm (right.map (·.command)))

include hleft hright hcommands

theorem Batch.answered_perm (hm : m.Indexed) :
    (∃ ops : List Operation, answers settings left m = ops.map .ok) ↔
      ∃ ops : List Operation, answers settings right m = ops.map .ok := by
  rw [hleft.answered_iff hm, hright.answered_iff hm]
  simp only [hcommands.mem_iff]

/-- **The order of a batch makes no difference to the books.** -/
theorem Batch.books_agree {allowed : Settings → Prop} (hm : m.Reached allowed) (hallowed : allowed settings)
    {ops' : List Operation} (hops : answers settings left m = ops.map .ok)
    (hops' : answers settings right m = ops'.map .ok) (id : AccountId) :
    (after settings left m).balance id = (after settings right m).balance id ∧
      ((after settings left m).entriesOf id).length = ((after settings right m).entriesOf id).length := by
  have hindexed := hm.consistent.indexed
  have horders : (bookings settings left m).Perm (bookings settings right m) := by
    rw [hleft.bookings_eq hindexed hops, hright.bookings_eq hindexed hops']
    exact hcommands.filterMap _
  refine totals_of_lines_perm ?_ id
  rw [(tally_after hm hallowed hleft.fresh).lines, (tally_after hm hallowed hright.fresh).lines]
  exact (horders.flatMap_right _).append_left _

end Orders

/-- What is booked is added to the balances. -/
theorem Tally.balance_eq {base : Memory} {orders : List Order} (h : Tally settings base orders m)
    (id : AccountId) :
    m.balance id = base.balance id +
      (orders.map fun o => Entry.Line.totalOn id (o.lines settings)).sum := by
  rw [m.balance_eq, base.balance_eq, h.lines, Entry.Line.totalOn_append, Entry.Line.totalOn_flatMap]

/-- **A batch under free references adds what each of its commands moves.** -/
theorem Batch.balance_eq (h : Batch settings attempts m) {allowed : Settings → Prop}
    (hm : m.Reached allowed) (hallowed : allowed settings)
    (hanswers : answers settings attempts m = ops.map .ok) {mv : Movement}
    (hasks : ∀ c ∈ attempts.map (·.command), c.Asks mv)
    (hfree : ∀ c ∈ attempts.map (·.command), c.Free m) (id : AccountId) :
    (after settings attempts m).balance id =
      m.balance id + ((attempts.map (·.command)).map fun c => c.moved settings mv id).sum := by
  have hindexed := hm.consistent.indexed
  have hpasses := (h.answered_iff hindexed).1 ⟨ops, hanswers⟩
  rw [(tally_after hm hallowed h.fresh).balance_eq, h.bookings_eq hindexed hanswers]
  generalize attempts.map (·.command) = cs at hasks hfree hpasses
  congr 2
  induction cs with
  | nil => rfl
  | cons c cs ih =>
      obtain ⟨hc, hcs⟩ := List.forall_mem_cons.1 hpasses
      obtain ⟨hask, hasks⟩ := List.forall_mem_cons.1 hasks
      obtain ⟨hnone, hfree⟩ := List.forall_mem_cons.1 hfree
      obtain ⟨o, ho, hunbooked⟩ := hc.unbooked_of_free hnone
      rw [List.filterMap_cons_some hunbooked, List.map_cons, List.map_cons, ih hasks hfree hcs,
        Command.totalOn_lines ho hask]

end Booking
end Daybook
