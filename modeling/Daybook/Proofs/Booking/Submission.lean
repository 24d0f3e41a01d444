import Daybook.Booking
import Daybook.Proofs.Booking.Order
import Daybook.Proofs.Memory.Consistent
import Daybook.Proofs.Memory.Disturbed

/-!
What one submission of a command may do to a store in memory. Whatever happens around it, it answers
with an operation that is stored under its reference, or books its posting, or leaves the store as
it is and fails (`Submission.Acts`). How much can be said about a failure depends on the
circumstances. When the accounts stay as they are and no call fails for no reason, the submission is
left no choice (`Submission.Acts.eq_verdict`).
-/

namespace Daybook

/-- A command to book, with the settings and the stamps for it. -/
structure Submission where
  settings : Settings
  stamps : BookingStamps
  command : Command

/-- What is known about a store while submissions are under way. -/
structure Circumstances where
  /-- The accounts, if they are fixed. -/
  accounts : Option (Table AccountId Account)
  /-- Calls may fail, and a search by reference may miss what is there. -/
  disturbed : Prop

/-- The reference is said to have an owner. -/
def Error.isConflict : Error → Bool
  | .store (.duplicateReference _) => true
  | _ => false

namespace Circumstances

structure Sound (v : Circumstances) (m : Memory) : Prop where
  indexed : m.Indexed
  accounts : ∀ {A}, v.accounts = some A → m.accounts = A

/-- The error needs no further reason. Without disturbance none is ever about the reference. -/
def Refuses (v : Circumstances) (e : Error) : Prop :=
  v.disturbed ∨ v.accounts = none ∧ e.isConflict = false

end Circumstances

namespace Submission

variable {q : Submission} {v : Circumstances} {o : Order} {p : Posting} {m m' : Memory}

def script {Draft : Type} (q : Submission) : Script Draft Booking.Result :=
  Booking.process q.settings q.stamps q.command

def order (q : Submission) : Except Error Order :=
  q.command.check q.settings.currency q.settings.defaultSource

/-- The id that the operation will have if there is one. -/
def operationId (q : Submission) : OperationId :=
  ⟨q.stamps.operation.id⟩

/-- The account that takes the other side. -/
def settlement (q : Submission) (order : Order) : Option AccountId :=
  if order.movement.isTransfer then none else q.settings.settlementAccount

/-- The operation as it is stored. -/
def operation (q : Submission) (order : Order) : Operation where
  id := q.operationId
  reference := order.reference
  kind := order.movement.kind
  status := .processed
  createdAt := q.stamps.operation.time
  processedAt := some q.stamps.completed
  failureReason := none

/-- The posting of the submission. -/
structure Books (q : Submission) (order : Order) (p : Posting) : Prop where
  checked : q.order = .ok order
  operation : p.operation = q.operation order
  entries : Booking.entries q.stamps q.operationId order (q.settlement order) = .ok p.entries

/-! ### Accounts -/

/-- What is wrong with the settlement account that was found, or was not. -/
def unfit (id : AccountId) : Option Account → Option Error
  | some account => if account.kind.canSettle then none else some (.invalidSettlementAccount id)
  | none => some (.invalidSettlementAccount id)

def settlementObstacle (q : Submission) (accounts : Table AccountId Account) (order : Order) :
    Option Error :=
  (q.settlement order).bind fun id => unfit id (accounts.get? id)

/-- The first of the accounts that is not there, and after them the settlement account if it cannot
settle. -/
def obstacleAmong (q : Submission) (accounts : Table AccountId Account) (order : Order) :
    List AccountId → Option Error
  | [] => q.settlementObstacle accounts order
  | id :: ids =>
    if accounts.contains id then q.obstacleAmong accounts order ids
    else some (.accountNotFound id)

def obstacle (q : Submission) (accounts : Table AccountId Account) (order : Order) : Option Error :=
  q.obstacleAmong accounts order order.movement.accounts

/-- The step of a submission, as the circumstances allow it. -/
inductive Acts (q : Submission) (v : Circumstances) (m : Memory) : Booking.Result → Memory → Prop
  | known {order : Order} {op : Operation} (checked : q.order = .ok order)
      (found : m.findByReference order.reference = some op) : Acts q v m (.ok op) m
  | booked {order : Order} {p : Posting} (books : q.Books order p)
      (fresh : m.operations.get? p.operation.id = none)
      (free : m.findByReference p.operation.reference = none)
      (present : ∀ e ∈ p.entries, m.accounts.contains e.account = true)
      (clear : ∀ {A}, v.accounts = some A → q.obstacle A order = none) :
      Acts q v m (.ok p.operation) (m.post p)
  | malformed {e : Error} (checked : q.order = .error e) : Acts q v m (.error e) m
  | obstructed {order : Order} {A : Table AccountId Account} {e : Error}
      (checked : q.order = .ok order) (free : m.findByReference order.reference = none)
      (fixed : v.accounts = some A) (obstacle : q.obstacle A order = some e) :
      Acts q v m (.error e) m
  | refused {e : Error} (refuses : v.Refuses e) : Acts q v m (.error e) m

/-! ### The posting -/

theorem order_valid (h : q.order = .ok o) : o.Valid q.settings.currency :=
  (Command.check_eq_ok h).2.2.2

/-- An order that checks has a posting, whatever the store. -/
theorem exists_books (h : q.order = .ok o) : ∃ p, q.Books o p := by
  obtain ⟨es, hes, -, -⟩ := (order_valid h).entries q.stamps q.operationId (q.settlement o)
  exact ⟨⟨q.operation o, es⟩, h, rfl, hes⟩

namespace Books

variable (h : q.Books o p)

include h

theorem id_eq : p.operation.id = q.operationId := by
  rw [h.operation]
  rfl

theorem reference_eq : p.operation.reference = o.reference := by
  rw [h.operation]
  rfl

/-- The entries are the lines of the movement. -/
theorem lines :
    p.entries.map Entry.line = o.movement.lines (q.settlement o) o.amount := by
  obtain ⟨es, hes, -, hlines⟩ :=
    (order_valid h.checked).entries q.stamps q.operationId (q.settlement o)
  rw [h.entries] at hes
  cases hes
  exact hlines

theorem proper : p.Proper := by
  obtain ⟨es, hes, hids, -⟩ :=
    (order_valid h.checked).entries q.stamps q.operationId (q.settlement o)
  rw [h.entries] at hes
  cases hes
  refine ⟨?_, fun he => (hids _ he).trans h.id_eq.symm⟩
  intro hnil
  have hlines := h.lines
  rw [hnil] at hlines
  cases hmovement : o.movement <;> rw [hmovement] at hlines <;> cases hlines

theorem line_mem {e : Entry} (he : e ∈ p.entries) :
    e.line ∈ o.movement.lines (q.settlement o) o.amount := by
  rw [← h.lines]
  exact List.mem_map_of_mem he

/-- There is one posting. -/
theorem unique {order' : Order} {p' : Posting} (h' : q.Books order' p') : o = order' ∧ p = p' := by
  have horder : o = order' := Except.ok.inj (h.checked.symm.trans h'.checked)
  subst horder
  obtain ⟨op, es⟩ := p
  obtain ⟨op', es'⟩ := p'
  have hop : op = op' := h.operation.trans h'.operation.symm
  have hes : es = es' := Except.ok.inj (h.entries.symm.trans h'.entries)
  exact ⟨rfl, by rw [hop, hes]⟩

end Books

/-! ### Obstacles -/

theorem settlement_settles {A : Table AccountId Account}
    (h : q.settlementObstacle A o = none) {id : AccountId} (hid : q.settlement o = some id) :
    ∃ account, A.get? id = some account ∧ account.kind.canSettle = true := by
  rw [settlementObstacle, hid, Option.bind_some] at h
  cases haccount : A.get? id with
  | none => rw [haccount] at h; cases h
  | some account =>
      rw [haccount, unfit] at h
      refine ⟨account, rfl, ?_⟩
      cases hsettle : account.kind.canSettle with
      | true => rfl
      | false => simp [hsettle] at h

theorem obstacleAmong_eq_none {A : Table AccountId Account} {ids : List AccountId}
    (h : q.obstacleAmong A o ids = none) :
    (∀ id ∈ ids, A.contains id = true) ∧ q.settlementObstacle A o = none := by
  induction ids with
  | nil => exact ⟨by simp, h⟩
  | cons id ids ih =>
      rw [obstacleAmong] at h
      split_ifs at h with hid
      obtain ⟨hids, hsettlement⟩ := ih h
      exact ⟨List.forall_mem_cons.2 ⟨hid, hids⟩, hsettlement⟩

theorem settlementObstacle_eq_none {A : Table AccountId Account}
    (h : ∀ {id}, q.settlement o = some id →
      ∃ account, A.get? id = some account ∧ account.kind.canSettle = true) :
    q.settlementObstacle A o = none := by
  rw [settlementObstacle]
  cases hid : q.settlement o with
  | none => rfl
  | some id =>
      obtain ⟨account, haccount, hsettles⟩ := h hid
      rw [Option.bind_some, haccount, unfit, if_pos hsettles]

theorem obstacleAmong_of_present {A : Table AccountId Account} {ids : List AccountId}
    (hids : ∀ id ∈ ids, A.contains id = true) (hsettlement : q.settlementObstacle A o = none) :
    q.obstacleAmong A o ids = none := by
  induction ids with
  | nil => exact hsettlement
  | cons id ids ih =>
      rw [obstacleAmong, if_pos (hids id List.mem_cons_self)]
      exact ih fun id' hid' => hids id' (List.mem_cons_of_mem _ hid')

theorem unfit_eq_some_iff {id : AccountId} {found : Option Account} {e : Error} :
    unfit id found = some e ↔
      (∀ a, found = some a → a.kind = .user) ∧ e = .invalidSettlementAccount id := by
  cases found with
  | none => simp [unfit, eq_comm]
  | some a => cases hkind : a.kind <;> simp [unfit, hkind, Account.Kind.canSettle, eq_comm]

theorem settlement_eq_some_iff {id : AccountId} :
    q.settlement o = some id ↔
      q.settings.settlementAccount = some id ∧ o.movement.isTransfer = false := by
  rw [settlement]
  cases o.movement <;> simp [Movement.isTransfer]

theorem settlementObstacle_eq_some_iff {A : Table AccountId Account} {e : Error} :
    q.settlementObstacle A o = some e ↔
      ∃ id, q.settings.settlementAccount = some id ∧ o.movement.isTransfer = false ∧
        (∀ a, A.get? id = some a → a.kind = .user) ∧ e = .invalidSettlementAccount id := by
  simp only [settlementObstacle, Option.bind_eq_some_iff, settlement_eq_some_iff, unfit_eq_some_iff,
    and_assoc]

theorem obstacleAmong_eq (q : Submission) (A : Table AccountId Account) (o : Order) (ids : List AccountId) :
    q.obstacleAmong A o ids =
      ((ids.find? fun id => !A.contains id).map .accountNotFound).or (q.settlementObstacle A o) := by
  induction ids with
  | nil => rfl
  | cons id ids ih => cases hid : A.contains id <;> simp [obstacleAmong, hid, ih]

/-- The obstacle among accounts is the first that is not there, or the one to the settlement. -/
theorem obstacleAmong_eq_some_iff {A : Table AccountId Account} {ids : List AccountId} {e : Error} :
    q.obstacleAmong A o ids = some e ↔
      (∃ before id after, ids = before ++ id :: after ∧ (∀ a ∈ before, A.contains a = true) ∧
        A.contains id = false ∧ e = .accountNotFound id) ∨
      (∀ a ∈ ids, A.contains a = true) ∧ q.settlementObstacle A o = some e := by
  have hfirst : (∃ id, ids.find? (fun id => !A.contains id) = some id ∧ .accountNotFound id = e) ↔
      ∃ before id after, ids = before ++ id :: after ∧ (∀ a ∈ before, A.contains a = true) ∧
        A.contains id = false ∧ e = .accountNotFound id := by
    simp only [List.find?_eq_some_iff_append, Bool.not_not, Bool.not_eq_true']
    constructor
    · rintro ⟨id, ⟨hmissing, before, after, hsplit, hpresent⟩, rfl⟩
      exact ⟨before, id, after, hsplit, hpresent, hmissing, rfl⟩
    · rintro ⟨before, id, after, hsplit, hpresent, hmissing, rfl⟩
      exact ⟨id, ⟨hmissing, before, after, hsplit, hpresent⟩, rfl⟩
  have hnone : ids.find? (fun id => !A.contains id) = none ↔ ∀ a ∈ ids, A.contains a = true := by
    simp only [List.find?_eq_none, Bool.not_eq_true', Bool.not_eq_false]
  rw [obstacleAmong_eq, Option.or_eq_some_iff, Option.map_eq_some_iff, Option.map_eq_none_iff, hfirst,
    hnone]

theorem obstacleAmong_ne_store {A : Table AccountId Account} {ids : List AccountId}
    {cause : StoreError} : q.obstacleAmong A o ids ≠ some (.store cause) := by
  intro h
  rcases obstacleAmong_eq_some_iff.1 h with ⟨_, _, _, -, -, -, hmissing⟩ | ⟨-, hsettlement⟩
  · cases hmissing
  · obtain ⟨_, -, -, -, hunfit⟩ := settlementObstacle_eq_some_iff.1 hsettlement
    cases hunfit

/-- Where nothing is in the way, the accounts of all entries are there. -/
theorem Books.present (h : q.Books o p) {A : Table AccountId Account}
    (hclear : q.obstacle A o = none) {e : Entry} (he : e ∈ p.entries) :
    A.contains e.account = true := by
  obtain ⟨hids, hsettlement⟩ := obstacleAmong_eq_none hclear
  rcases Movement.mem_lines (h.line_mem he) with ⟨hmain, -⟩ | ⟨hother, -⟩
  · exact hids _ hmain
  · obtain ⟨account, haccount, -⟩ := settlement_settles hsettlement hother
    rw [Table.contains, show A.get? e.account = some account from haccount]
    rfl

/-- The account of an entry that settles is fit for it. -/
theorem Books.suits (h : q.Books o p) {A : Table AccountId Account}
    (hclear : q.obstacle A o = none) {e : Entry} {a : Account} (he : e ∈ p.entries)
    (ha : A.get? e.account = some a) (hsettles : e.purpose.isSettlement = true) :
    a.kind.canSettle = true := by
  rcases Movement.mem_lines (h.line_mem he) with ⟨-, hmain⟩ | ⟨hother, -⟩
  · rw [show e.line.purpose = e.purpose from rfl, hsettles] at hmain
    cases hmain
  · obtain ⟨account, haccount, hfit⟩ := settlement_settles (obstacleAmong_eq_none hclear).2 hother
    rw [show e.line.account = e.account from rfl, ha] at haccount
    cases haccount
    exact hfit

/-! ### The step -/

/-- What a submission does with fixed accounts and no disturbance. -/
def verdict (q : Submission) (accounts : Table AccountId Account) (m : Memory) :
    Booking.Result × Memory :=
  match q.order with
  | .error e => (.error e, m)
  | .ok order =>
    match m.findByReference order.reference with
    | some op => (.ok op, m)
    | none =>
      match q.obstacle accounts order with
      | some e => (.error e, m)
      | none =>
        match Booking.entries q.stamps q.operationId order (q.settlement order) with
        | .error e => (.error e, m)
        | .ok es => (.ok (q.operation order), m.post ⟨q.operation order, es⟩)

/-- With fixed accounts and no disturbance, the state alone decides what a submission does. -/
theorem Acts.eq_verdict {A : Table AccountId Account} (hfixed : v.accounts = some A)
    (hcalm : ¬ v.disturbed) {r : Booking.Result} (h : q.Acts v m r m') :
    (r, m') = q.verdict A m := by
  rw [verdict]
  cases h with
  | known checked found => simp only [checked, found]
  | booked books fresh free present clear =>
      rw [books.reference_eq] at free
      simp only [books.checked, free, clear hfixed, books.entries, ← books.operation]
  | malformed checked => simp only [checked]
  | obstructed checked free fixed obstacle =>
      rw [hfixed] at fixed
      cases fixed
      simp only [checked, free, obstacle]
  | refused refuses =>
      rcases refuses with hdisturbed | ⟨hnone, -⟩
      · exact absurd hdisturbed hcalm
      · rw [hfixed] at hnone
        cases hnone

/-- Without disturbance no submission fails because of its reference. -/
theorem Acts.ne_conflict {text : String} (hcalm : ¬ v.disturbed) :
    ¬ q.Acts v m (.error (.store (.duplicateReference text))) m' := by
  intro h
  cases h with
  | malformed checked => exact Command.check_ne_store checked
  | obstructed checked free fixed obstacle => exact obstacleAmong_ne_store obstacle
  | refused refuses =>
      rcases refuses with hdisturbed | ⟨-, hne⟩
      · exact hcalm hdisturbed
      · cases hne

theorem Acts.sound {r : Booking.Result} (hm : v.Sound m) (h : q.Acts v m r m') : v.Sound m' := by
  cases h with
  | booked books fresh free present clear => exact ⟨hm.indexed.post fresh free, hm.accounts⟩
  | _ => exact hm

theorem Acts.kept {r : Booking.Result} (h : q.Acts v m r m') : m.Extends m' := by
  cases h with
  | booked books fresh free present clear => exact .post fresh
  | _ => exact .refl m

/-- Other ids are spared. -/
theorem Acts.spares {r : Booking.Result} (h : q.Acts v m r m') {id : OperationId}
    (hid : id ≠ q.operationId) : Memory.Spares id m m' := by
  refine ⟨h.kept, fun hnone => ?_⟩
  cases h with
  | booked books fresh free present clear =>
      rw [Memory.get?_post, books.id_eq, if_neg hid]
      exact hnone
  | _ => exact hnone

/-- What is answered is found under the reference from then on. -/
theorem Acts.found {op : Operation} (h : q.Acts v m (.ok op) m') :
    ∃ o, q.order = .ok o ∧ m'.findByReference o.reference = some op := by
  cases h with
  | known checked found => exact ⟨_, checked, found⟩
  | @booked o p books fresh free present clear =>
      refine ⟨o, books.checked, ?_⟩
      rw [← books.reference_eq]
      exact Memory.find_post m p

/-- A consistent store stays consistent, provided that the posting is a proper one. -/
theorem Acts.consistent {posts : Posting → Prop} {suits : Entry → Account → Prop}
    {r : Booking.Result} (hm : m.Consistent posts suits) (h : q.Acts v m r m')
    (hposts : ∀ {o p}, q.Books o p → posts p)
    (hsuits : ∀ {o p}, q.Books o p → (∀ {A}, v.accounts = some A → q.obstacle A o = none) →
      ∀ {e a}, e ∈ p.entries → m.accounts.get? e.account = some a → suits e a) :
    m'.Consistent posts suits := by
  cases h with
  | booked books fresh free present clear =>
      refine hm.post books.proper (hposts books) fresh free fun e he => ?_
      obtain ⟨a, ha⟩ := Option.isSome_iff_exists.1 (present e he)
      exact ⟨a, ha, hsuits books clear he ha⟩
  | _ => exact hm

/-! ### Two deposits under one reference -/

/-- The submission of a command with stamps counted from a number. -/
def counted (command : Command) (n : Nat) : Submission :=
  let stamp (k : Nat) : Stamp := ⟨⟨BitVec.ofNat 128 (n + k)⟩, .ofNanos (n + k)⟩
  ⟨.default, ⟨stamp 0, stamp 1, stamp 2, .ofNanos (n + 3)⟩, command⟩

def depositAccount : Account :=
  ⟨⟨⟨1⟩⟩, .user, .ofNanos 0⟩

/-- Deposits of 10 and of 20, with blanks around the reference of the second. -/
def twoDeposits : Bool → Submission
  | false => counted (.deposit "R-1" depositAccount.id ((Decimal.ofNat? 10).getD .zero)) 10
  | true => counted (.deposit " R-1 " depositAccount.id ((Decimal.ofNat? 20).getD .zero)) 20

theorem twoDeposits_ids : Function.Injective fun b => (twoDeposits b).operationId := by
  intro b c h
  cases b <;> cases c
  · rfl
  · exact absurd h (by decide)
  · exact absurd h (by decide)
  · rfl

end Submission
end Daybook
