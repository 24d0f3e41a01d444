import Daybook.Proofs.Booking.WellFormed
import Mathlib.Data.List.Nodup

/-!
Runs of attempts: submissions under fixed settings, one after the other, each under a schedule of its
own. An attempt books its order or leaves the store as it is (`Attempt.go_cases`). After a run the
store holds what it held before, and of every reference that was booked on the way the lines of one
order, whatever became of the other attempts (`Booking.tally_after`).
-/

namespace Daybook

/-- A command on its way, with its stamps and with what becomes of its calls. -/
structure Attempt where
  stamps : BookingStamps
  command : Command
  schedule : List Disturbance

/-- What an order leaves on the accounts. -/
def Order.lines (settings : Settings) (o : Order) : List Entry.Line :=
  o.movement.lines settings.settlementAccount o.amount

namespace Attempt

def submission (a : Attempt) (settings : Settings) : Submission :=
  ⟨settings, a.stamps, a.command⟩

def operationId (a : Attempt) : OperationId :=
  ⟨a.stamps.operation.id⟩

/-- What the attempt answers, and the store after it. -/
def go (a : Attempt) (settings : Settings) (m : Memory) : Booking.Result × Memory :=
  (a.submission settings).submit a.schedule m

/-- The order of an attempt that answers with an operation of its own. -/
def booked? (a : Attempt) (settings : Settings) (m : Memory) : Option Order :=
  match (a.go settings m).1, (a.submission settings).order with
  | .ok op, .ok o => if op.id = a.operationId then some o else none
  | _, _ => none

variable {settings : Settings} {m : Memory}

theorem order_of_booked? (a : Attempt) {o : Order} (h : a.booked? settings m = some o) :
    (a.submission settings).order = .ok o := by
  rw [booked?] at h
  split at h
  · rename_i horder
    split_ifs at h
    cases h
    exact horder
  · cases h

theorem acts (a : Attempt) (settings : Settings) (hm : m.Indexed)
    (hfresh : m.operations.get? a.operationId = none) :
    (a.submission settings).Acts ⟨some m.accounts, True⟩ m (a.go settings m).1 (a.go settings m).2 :=
  (a.submission settings).submit_acts hm hfresh a.schedule

theorem indexed_go (a : Attempt) (settings : Settings) (hm : m.Indexed)
    (hfresh : m.operations.get? a.operationId = none) : (a.go settings m).2.Indexed := by
  refine ((a.acts settings hm hfresh).sound ?_).indexed
  exact ⟨hm, fun h => Option.some.inj h⟩

/-- **An attempt books its order, or nothing happens.** -/
theorem go_cases (a : Attempt) (settings : Settings) (hm : m.Indexed)
    (hfresh : m.operations.get? a.operationId = none) :
    (a.booked? settings m = none ∧ (a.go settings m).2 = m) ∨
    ∃ o p, a.booked? settings m = some o ∧ (a.submission settings).Books o p ∧
      m.findByReference p.operation.reference = none ∧ (a.go settings m).2 = m.post p := by
  have hacts := a.acts settings hm hfresh
  rw [booked?]
  generalize a.go settings m = result at hacts ⊢
  obtain ⟨r, m'⟩ := result
  cases hacts with
  | @known o op checked found =>
      -- A known operation has an id of its own, since the id of the attempt is new.
      have hother : op.id ≠ a.operationId := by
        intro hid
        obtain ⟨hop, -⟩ := hm.find_iff.1 found
        rw [hid, hfresh] at hop
        cases hop
      refine Or.inl ⟨?_, rfl⟩
      simp only [checked]
      exact if_neg hother
  | @booked o p books fresh free present clear =>
      refine Or.inr ⟨o, p, ?_, books, free, rfl⟩
      simp only [books.checked]
      exact if_pos books.id_eq
  | _ => exact Or.inl ⟨rfl, rfl⟩

end Attempt

namespace Booking

variable {settings : Settings} {attempts : List Attempt} {a : Attempt} {m base : Memory}
  {orders : List Order} {o : Order} {p : Posting}

/-- The store after a run. -/
def after (settings : Settings) (attempts : List Attempt) (m : Memory) : Memory :=
  attempts.foldl (fun m a => (a.go settings m).2) m

/-- What the attempts of a run answer. -/
def answers (settings : Settings) : List Attempt → Memory → List Result
  | [], _ => []
  | a :: attempts, m => (a.go settings m).1 :: answers settings attempts (a.go settings m).2

/-- The orders that are booked in a run. -/
def bookings (settings : Settings) : List Attempt → Memory → List Order
  | [], _ => []
  | a :: attempts, m =>
    (a.booked? settings m).toList ++ bookings settings attempts (a.go settings m).2

theorem after_cons (settings : Settings) (a : Attempt) (attempts : List Attempt) (m : Memory) :
    after settings (a :: attempts) m = after settings attempts (a.go settings m).2 :=
  rfl

/-- All attempts are answered with operations if the first one is, and then the others are. -/
theorem answers_cons_iff {ops : List Operation} :
    answers settings (a :: attempts) m = ops.map .ok ↔
      ∃ op rest, ops = op :: rest ∧ (a.go settings m).1 = .ok op ∧
        answers settings attempts (a.go settings m).2 = rest.map .ok := by
  cases ops <;> simp [answers]

theorem length_answers (settings : Settings) (attempts : List Attempt) (m : Memory) :
    (answers settings attempts m).length = attempts.length := by
  induction attempts generalizing m with
  | nil => rfl
  | cons a attempts ih => rw [answers, List.length_cons, List.length_cons, ih]

/-- What is booked was attempted. -/
theorem mem_bookings (h : o ∈ bookings settings attempts m) :
    ∃ a ∈ attempts, (a.submission settings).order = .ok o := by
  induction attempts generalizing m with
  | nil => cases h
  | cons a attempts ih =>
      rcases List.mem_append.1 h with h | h
      · exact ⟨a, List.mem_cons_self, a.order_of_booked? (Option.mem_toList.1 h)⟩
      · obtain ⟨b, hb, hchecked⟩ := ih h
        exact ⟨b, List.mem_cons_of_mem _ hb, hchecked⟩

/-! ### Ids that are new -/

/-- No two attempts share an id, and no stored operation has one of the ids. -/
structure Fresh (attempts : List Attempt) (m : Memory) : Prop where
  distinct : (attempts.map (·.operationId)).Nodup
  unused : ∀ {a}, a ∈ attempts → m.operations.get? a.operationId = none

theorem Fresh.head (h : Fresh (a :: attempts) m) : m.operations.get? a.operationId = none :=
  h.unused List.mem_cons_self

theorem Fresh.tail (h : Fresh (a :: attempts) m) (hm : m.Indexed) (settings : Settings) :
    Fresh attempts (a.go settings m).2 := by
  obtain ⟨hother, hdistinct⟩ := List.nodup_cons.1 h.distinct
  refine ⟨hdistinct, fun {b} hb => ?_⟩
  have hne : b.operationId ≠ a.operationId := by
    intro hid
    exact hother (List.mem_map.2 ⟨b, hb, hid⟩)
  exact ((a.acts settings hm h.head).spares hne).fresh (h.unused (List.mem_cons_of_mem _ hb))

theorem reached_after {allowed : Settings → Prop} (hm : m.Reached allowed) (hallowed : allowed settings)
    (hfresh : Fresh attempts m) : (after settings attempts m).Reached allowed := by
  induction attempts generalizing m with
  | nil => exact hm
  | cons a attempts ih =>
      rw [after_cons]
      refine ih (hm.submit (a.submission settings) hallowed hfresh.head a.schedule) ?_
      exact hfresh.tail hm.consistent.indexed settings

theorem extends_after (hm : m.Indexed) (hfresh : Fresh attempts m) :
    m.Extends (after settings attempts m) := by
  induction attempts generalizing m with
  | nil => exact .refl m
  | cons a attempts ih =>
      have hkept := (a.acts settings hm hfresh.head).kept
      rw [after_cons]
      exact hkept.trans (ih (a.indexed_go settings hm hfresh.head) (hfresh.tail hm settings))

/-! ### What a run leaves behind -/

/-- The orders have been booked since the store was `base`, and nothing else has: each of them under
its own reference, and with its lines after those that there were. -/
structure Tally (settings : Settings) (base : Memory) (orders : List Order) (m : Memory) : Prop where
  accounts : m.accounts = base.accounts
  once : (orders.map (·.reference)).Nodup
  stored : ∀ {o}, o ∈ orders → ∃ op, m.findByReference o.reference = some op ∧
    op.kind = o.movement.kind ∧ (m.entriesOfOperation op.id).map Entry.line = o.lines settings
  known : ∀ {r op}, m.findByReference r = some op →
    base.findByReference r = some op ∨ ∃ o ∈ orders, o.reference = r
  lines : m.entries.map Entry.line =
    base.entries.map Entry.line ++ orders.flatMap (Order.lines settings)

theorem Tally.start (settings : Settings) (m : Memory) : Tally settings m [] m where
  accounts := rfl
  once := List.nodup_nil
  stored := nofun
  known := Or.inl
  lines := (List.append_nil _).symm

/-- One more order is booked. -/
theorem Tally.post {posts : Posting → Prop} {suits : Entry → Account → Prop}
    (h : Tally settings base orders m) (hm : m.Consistent posts suits)
    (hbooks : (a.submission settings).Books o p) (hfresh : m.operations.get? a.operationId = none)
    (hfree : m.findByReference p.operation.reference = none) :
    Tally settings base (orders ++ [o]) (m.post p) := by
  have hnew : m.operations.get? p.operation.id = none := hbooks.id_eq ▸ hfresh
  have hindexed := hm.indexed.post hnew hfree
  have hlines : p.entries.map Entry.line = o.lines settings := hbooks.lines_settings
  have hother : ∀ o' ∈ orders, o'.reference ≠ o.reference := by
    intro o' ho' hsame
    obtain ⟨op, hop, -⟩ := h.stored ho'
    rw [hsame, ← hbooks.reference_eq, hfree] at hop
    cases hop
  refine ⟨h.accounts, ?_, ?_, ?_, ?_⟩
  · -- The reference is free, so no order before this one has it.
    rw [List.map_append]
    refine h.once.append (List.nodup_singleton _) ?_
    intro r hr hnew
    obtain ⟨o', ho', rfl⟩ := List.mem_map.1 hr
    exact hother o' ho' (List.mem_singleton.1 hnew)
  · intro o' ho'
    rcases List.mem_append.1 ho' with ho' | ho'
    · obtain ⟨op, hop, hkind, hlines'⟩ := h.stored ho'
      have hne : op.id ≠ p.operation.id := by
        intro hid
        have hstored := (hm.indexed.find_iff.1 hop).1
        rw [hid, hnew] at hstored
        cases hstored
      refine ⟨op, (Memory.Extends.post hnew).find hm.indexed hindexed hop, hkind, ?_⟩
      rw [Memory.entriesOfOperation_post_of_ne hbooks.proper hne]
      exact hlines'
    · rw [List.mem_singleton.1 ho']
      refine ⟨p.operation, ?_, by rw [hbooks.operation]; rfl, ?_⟩
      · rw [← hbooks.reference_eq]
        exact Memory.find_post m p
      · -- The id is new, so no entries were there under it.
        rw [Memory.entriesOfOperation_post_self hbooks.proper, hm.entriesOfOperation_of_fresh hnew]
        exact hlines
  · intro r op hop
    obtain ⟨hstored, hreference⟩ := hindexed.find_iff.1 hop
    rw [Memory.get?_post] at hstored
    split_ifs at hstored with hid
    · cases hstored
      exact Or.inr ⟨o, List.mem_append_right _ List.mem_cons_self, hbooks.reference_eq ▸ hreference⟩
    · rcases h.known (hm.indexed.find_iff.2 ⟨hstored, hreference⟩) with hbase | ⟨o', ho', hr⟩
      · exact Or.inl hbase
      · exact Or.inr ⟨o', List.mem_append_left _ ho', hr⟩
  · calc
      (m.post p).entries.map Entry.line = m.entries.map Entry.line ++ p.entries.map Entry.line :=
        List.map_append
      _ = base.entries.map Entry.line ++ (orders.flatMap (Order.lines settings) ++ o.lines settings) := by
        rw [h.lines, hlines, List.append_assoc]
      _ = base.entries.map Entry.line ++ (orders ++ [o]).flatMap (Order.lines settings) := by
        rw [List.flatMap_append, List.flatMap_singleton]

theorem Tally.go (h : Tally settings base orders m) {posts : Posting → Prop}
    {suits : Entry → Account → Prop} (hm : m.Consistent posts suits)
    (hfresh : m.operations.get? a.operationId = none) :
    Tally settings base (orders ++ (a.booked? settings m).toList) (a.go settings m).2 := by
  rcases a.go_cases settings hm.indexed hfresh with
    ⟨hnone, hsame⟩ | ⟨o, p, hsome, hbooks, hfree, hposted⟩
  · rw [hnone, hsame, Option.toList_none, List.append_nil]
    exact h
  · rw [hsome, hposted]
    exact h.post hm hbooks hfresh hfree

/-- **A run adds the orders that it books, and nothing else.** -/
theorem Tally.run {allowed : Settings → Prop} (h : Tally settings base orders m)
    (hm : m.Reached allowed) (hallowed : allowed settings) (hfresh : Fresh attempts m) :
    Tally settings base (orders ++ bookings settings attempts m) (after settings attempts m) := by
  induction attempts generalizing orders m with
  | nil =>
      rw [bookings, List.append_nil]
      exact h
  | cons a attempts ih =>
      rw [bookings, after_cons, ← List.append_assoc]
      refine ih (h.go hm.consistent hfresh.head) ?_ (hfresh.tail hm.consistent.indexed settings)
      exact hm.submit (a.submission settings) hallowed hfresh.head a.schedule

theorem tally_after {allowed : Settings → Prop} (hm : m.Reached allowed) (hallowed : allowed settings)
    (hfresh : Fresh attempts m) :
    Tally settings m (bookings settings attempts m) (after settings attempts m) :=
  (Tally.start settings m).run hm hallowed hfresh

end Booking
end Daybook
