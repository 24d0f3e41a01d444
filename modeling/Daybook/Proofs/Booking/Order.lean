import Daybook.Booking.Entries
import Daybook.Proofs.Money.Opposite
import Daybook.Proofs.Results

/-!
Orders and their entries. What checking a command promises of the order is `Order.Valid`; of a valid
order the entries can always be built (`Order.Valid.entries`), and they are the lines that the
movement has: one or two on its own accounts, and one on the settlement account if there is one.
-/

namespace Daybook

/-- What an entry says apart from where it stands: the account, the direction, the amount and the
purpose. -/
structure Entry.Line where
  account : AccountId
  direction : Entry.Direction
  amount : Money
  purpose : Entry.Purpose
deriving DecidableEq

def Entry.line (e : Entry) : Entry.Line :=
  ⟨e.account, e.direction, e.amount, e.purpose⟩

/-- The lines of a movement of an amount. A settlement account takes the other side of a deposit or
withdrawal; a transfer has two sides already. -/
def Movement.lines (settlement : Option AccountId) (amount : Money) : Movement → List Entry.Line
  | .deposit target =>
      ⟨target, .credit, amount, .deposit⟩ ::
        settlement.toList.map (⟨·, .debit, amount.negate, .depositSettlement⟩)
  | .withdrawal source =>
      ⟨source, .debit, amount.negate, .withdrawal⟩ ::
        settlement.toList.map (⟨·, .credit, amount, .withdrawalSettlement⟩)
  | .transfer source target =>
      [⟨source, .debit, amount.negate, .transferOut⟩, ⟨target, .credit, amount, .transferIn⟩]

/-- Booked on the settlement account, for the other side of a deposit or withdrawal. -/
def Entry.Purpose.isSettlement : Entry.Purpose → Bool
  | .depositSettlement => true
  | .withdrawalSettlement => true
  | _ => false

/-- A line is on an account of the movement, or it settles and is on the settlement account. -/
theorem Movement.mem_lines {mv : Movement} {settlement : Option AccountId} {amount : Money}
    {l : Entry.Line} (h : l ∈ mv.lines settlement amount) :
    (l.account ∈ mv.accounts ∧ l.purpose.isSettlement = false) ∨
      (settlement = some l.account ∧ l.purpose.isSettlement = true) := by
  cases mv with
  | deposit target =>
      rcases List.mem_cons.1 h with rfl | hother
      · exact Or.inl ⟨List.mem_cons_self, rfl⟩
      · obtain ⟨account, haccount, rfl⟩ := List.mem_map.1 hother
        exact Or.inr ⟨Option.mem_toList.1 haccount, rfl⟩
  | withdrawal source =>
      rcases List.mem_cons.1 h with rfl | hother
      · exact Or.inl ⟨List.mem_cons_self, rfl⟩
      · obtain ⟨account, haccount, rfl⟩ := List.mem_map.1 hother
        exact Or.inr ⟨Option.mem_toList.1 haccount, rfl⟩
  | transfer source target =>
      simp only [lines, List.mem_cons, List.not_mem_nil, or_false] at h
      rcases h with rfl | rfl
      · exact Or.inl ⟨List.mem_cons_self, rfl⟩
      · exact Or.inl ⟨List.mem_cons_of_mem _ List.mem_cons_self, rfl⟩

/-- A transfer has no use for a settlement account. -/
theorem Movement.lines_of_isTransfer {mv : Movement} {settlement settlement' : Option AccountId}
    {amount : Money} (h : mv.isTransfer = true) :
    mv.lines settlement amount = mv.lines settlement' amount := by
  cases mv with
  | transfer source target => rfl
  | _ => cases h

/-- A line moves the amount or its opposite. -/
theorem Movement.amount_of_mem_lines {mv : Movement} {settlement : Option AccountId} {amount : Money}
    {l : Entry.Line} (h : l ∈ mv.lines settlement amount) :
    l.amount = amount ∨ l.amount = amount.negate := by
  cases mv with
  | deposit target =>
      rcases List.mem_cons.1 h with rfl | hother
      · exact Or.inl rfl
      · obtain ⟨account, -, rfl⟩ := List.mem_map.1 hother
        exact Or.inr rfl
  | withdrawal source =>
      rcases List.mem_cons.1 h with rfl | hother
      · exact Or.inr rfl
      · obtain ⟨account, -, rfl⟩ := List.mem_map.1 hother
        exact Or.inl rfl
  | transfer source target =>
      simp only [lines, List.mem_cons, List.not_mem_nil, or_false] at h
      rcases h with rfl | rfl
      · exact Or.inr rfl
      · exact Or.inl rfl

/-- What checking a command promises of the order. -/
structure Order.Valid (o : Order) (currency : Currency) : Prop where
  positive : o.amount.isPositive = true
  storable : o.amount.isStorable = true
  currency_eq : o.amount.currency = currency
  distinct : ∀ {source target}, o.movement = .transfer source target → source ≠ target

namespace Command

theorem checkAmount_eq_ok {amount : Decimal} {currency : Currency} {a : Money}
    (h : checkAmount amount currency = .ok a) :
    a = Money.new amount currency ∧ a.isPositive = true ∧ a.isStorable = true := by
  rw [checkAmount] at h
  split_ifs at h with hpositive hstorable
  cases h
  exact ⟨rfl, by simpa using hpositive, by simpa using hstorable⟩

theorem checkMovement_eq_ok {kind : Operation.Kind} {source target : Option AccountId}
    {mv : Movement} (h : checkMovement kind source target = .ok mv) :
    mv.kind = kind ∧ ∀ {a b}, mv = .transfer a b → a ≠ b := by
  cases kind with
  | deposit =>
      obtain ⟨account, -, h⟩ := except_bind_eq_ok.1 h
      cases h
      exact ⟨rfl, nofun⟩
  | withdrawal =>
      obtain ⟨account, -, h⟩ := except_bind_eq_ok.1 h
      cases h
      exact ⟨rfl, nofun⟩
  | transfer =>
      obtain ⟨a, -, h⟩ := except_bind_eq_ok.1 h
      obtain ⟨b, -, h⟩ := except_bind_eq_ok.1 h
      split_ifs at h with hne
      cases h
      exact ⟨rfl, fun heq => by cases heq; exact hne⟩

/-- The order of a command has its trimmed reference and its kind, and is valid. -/
theorem check_eq_ok {c : Command} {currency : Currency} {defaultSource : String} {o : Order}
    (h : c.check currency defaultSource = .ok o) :
    Reference.parse c.reference = .ok o.reference ∧ c.kind = some o.movement.kind ∧
      o.amount = Money.new c.amount currency ∧ o.Valid currency := by
  obtain ⟨reference, hreference, h⟩ := except_bind_eq_ok.1 h
  obtain ⟨kind, hkind, h⟩ := except_bind_eq_ok.1 h
  obtain ⟨amount, hamount, h⟩ := except_bind_eq_ok.1 h
  obtain ⟨movement, hmovement, h⟩ := except_bind_eq_ok.1 h
  cases h
  obtain ⟨hrounded, hpositive, hstorable⟩ := checkAmount_eq_ok hamount
  obtain ⟨hsame, hdistinct⟩ := checkMovement_eq_ok hmovement
  refine ⟨?_, ?_, hrounded, hpositive, hstorable, ?_, hdistinct⟩
  · cases hparse : Reference.parse c.reference with
    | error e => rw [hparse] at hreference; cases hreference
    | ok r => rw [hparse] at hreference; cases hreference; rfl
  · cases hc : c.kind with
    | none => rw [hc] at hkind; cases hkind
    | some k => rw [hc] at hkind; cases hkind; rw [hsame]
  · rw [hrounded]
    rfl

/-- The command asks for the movement: the kind is given, and so are the accounts that it needs. -/
def Asks (c : Command) : Movement → Prop
  | .deposit target => c.kind = some .deposit ∧ c.targetAccount = some target
  | .withdrawal source => c.kind = some .withdrawal ∧ c.sourceAccount = some source
  | .transfer source target =>
      c.kind = some .transfer ∧ c.sourceAccount = some source ∧ c.targetAccount = some target

theorem orElse_eq_ok {α : Type} {e : Error} {a? : Option α} {a : α} (h : orElse e a? = .ok a) :
    a? = some a := by
  cases a? with
  | none => cases h
  | some b => exact congrArg _ (Except.ok.inj h)

/-- The order of a command has the movement that the command asks for. -/
theorem check_asks {c : Command} {currency : Currency} {defaultSource : String} {o : Order}
    (h : c.check currency defaultSource = .ok o) : c.Asks o.movement := by
  obtain ⟨reference, -, h⟩ := except_bind_eq_ok.1 h
  obtain ⟨kind, hkind, h⟩ := except_bind_eq_ok.1 h
  obtain ⟨amount, -, h⟩ := except_bind_eq_ok.1 h
  obtain ⟨movement, hmovement, h⟩ := except_bind_eq_ok.1 h
  cases h
  have hgiven := orElse_eq_ok hkind
  cases kind with
  | deposit =>
      obtain ⟨target, htarget, h⟩ := except_bind_eq_ok.1 hmovement
      cases h
      exact ⟨hgiven, orElse_eq_ok htarget⟩
  | withdrawal =>
      obtain ⟨source, hsource, h⟩ := except_bind_eq_ok.1 hmovement
      cases h
      exact ⟨hgiven, orElse_eq_ok hsource⟩
  | transfer =>
      obtain ⟨source, hsource, h⟩ := except_bind_eq_ok.1 hmovement
      obtain ⟨target, htarget, h⟩ := except_bind_eq_ok.1 h
      split_ifs at h
      cases h
      exact ⟨hgiven, orElse_eq_ok hsource, orElse_eq_ok htarget⟩

theorem orElse_eq_error_iff {α : Type} {e e' : Error} {a? : Option α} :
    orElse e a? = .error e' ↔ a? = none ∧ e' = e := by
  cases a? <;> simp [orElse, eq_comm]

theorem checkMovement_ne_store {kind : Operation.Kind} {source target : Option AccountId}
    {cause : StoreError} : checkMovement kind source target ≠ .error (.store cause) := by
  intro h
  cases kind with
  | deposit =>
      rcases except_bind_eq_error.1 h with h | ⟨_, -, h⟩
      · cases (orElse_eq_error_iff.1 h).2
      · cases h
  | withdrawal =>
      rcases except_bind_eq_error.1 h with h | ⟨_, -, h⟩
      · cases (orElse_eq_error_iff.1 h).2
      · cases h
  | transfer =>
      rcases except_bind_eq_error.1 h with h | ⟨_, -, h⟩
      · cases (orElse_eq_error_iff.1 h).2
      rcases except_bind_eq_error.1 h with h | ⟨_, -, h⟩
      · cases (orElse_eq_error_iff.1 h).2
      · split_ifs at h <;> cases h

/-- Checking fails for causes of its own, none of which is a store's. -/
theorem check_ne_store {c : Command} {currency : Currency} {defaultSource : String}
    {cause : StoreError} : c.check currency defaultSource ≠ .error (.store cause) := by
  intro h
  rcases except_bind_eq_error.1 h with hreference | ⟨reference, -, h⟩
  · cases hparse : Reference.parse c.reference <;> rw [hparse] at hreference <;> cases hreference
  rcases except_bind_eq_error.1 h with hkind | ⟨kind, -, h⟩
  · cases (orElse_eq_error_iff.1 hkind).2
  rcases except_bind_eq_error.1 h with hamount | ⟨amount, -, h⟩
  · rw [checkAmount] at hamount
    split_ifs at hamount <;> cases hamount
  rcases except_bind_eq_error.1 h with hmovement | ⟨movement, -, h⟩
  · exact checkMovement_ne_store hmovement
  · cases h

end Command

/-! ### Entries -/

namespace Entry

variable {stamp : Stamp} {operation : OperationId} {account : AccountId} {amount : Money}
  {purpose : Purpose} {source : String}

/-- A credit of a positive amount can always be made. -/
theorem credit_of_isPositive (h : amount.isPositive = true) :
    ∃ e, credit stamp operation account amount purpose source = .ok e ∧ e.operation = operation ∧
      e.line = ⟨account, .credit, amount, purpose⟩ := by
  have hcarries : Direction.credit.Carries amount := Money.isPositive_iff.1 h
  rw [credit, if_pos h, make, if_neg (by simp [Money.isZero_of_isPositive h]), dif_pos hcarries]
  exact ⟨_, rfl, rfl, rfl⟩

/-- A debit of a positive amount can always be made. -/
theorem debit_of_isPositive (h : amount.isPositive = true) :
    ∃ e, debit stamp operation account amount purpose source = .ok e ∧ e.operation = operation ∧
      e.line = ⟨account, .debit, amount.negate, purpose⟩ := by
  have hcarries : Direction.debit.Carries amount.negate := by
    show amount.amount.neg.signed < 0
    rw [Decimal.signed_neg]
    have hpositive := Money.isPositive_iff.1 h
    omega
  have hzero : amount.negate.isZero = false := by
    show amount.isZero = false
    exact Money.isZero_of_isPositive h
  rw [debit, if_pos h, make, if_neg (by simp [hzero]), dif_pos hcarries]
  exact ⟨_, rfl, rfl, rfl⟩

/-- Two entries with opposite amounts balance. -/
theorem balanced_of_opposite {e e' : Entry} (h : e'.line.amount = e.line.amount.negate) :
    balanced [e, e'] = true := by
  change e'.amount = e.amount.negate at h
  obtain ⟨z, hz, hzero⟩ := Money.add_negate e.amount
  have hsum : Money.sum e.amount.currency [e.amount, e'.amount] = .ok z := by
    rw [Money.sum, List.foldlM_cons, Money.zero_add, h]
    show (do let s ← e.amount.add e.amount.negate; [].foldlM Money.add s) = .ok z
    rw [hz]
    rfl
  simp only [balanced, List.map_cons, List.map_nil, hsum, hzero]

/-- Two entries on lines with opposite amounts, under one operation. -/
theorem pair {e e' : Entry} {id : OperationId} {l l' : Line} (he : e.operation = id ∧ e.line = l)
    (he' : e'.operation = id ∧ e'.line = l') (hopposite : l'.amount = l.amount.negate) :
    (∀ x ∈ [e, e'], x.operation = id) ∧ [e, e'].map Entry.line = [l, l'] ∧ balanced [e, e'] = true := by
  obtain ⟨hid, rfl⟩ := he
  obtain ⟨hid', rfl⟩ := he'
  exact ⟨by simp [hid, hid'], rfl, balanced_of_opposite hopposite⟩

end Entry

namespace Order.Valid

variable {o : Order} {currency : Currency}

/-- The sides of a valid order can be built, and where there are two of them they balance. -/
theorem sides (h : o.Valid currency) (stamps : BookingStamps) (id : OperationId)
    (settlement : Option AccountId) :
    ∃ es, Booking.sides stamps id o settlement = .ok es ∧ (∀ e ∈ es, e.operation = id) ∧
      es.map Entry.line = o.movement.lines settlement o.amount ∧
      ((settlement.isSome || o.movement.isTransfer) = true → Entry.balanced es = true) := by
  have hcredit : ∀ stamp account purpose, ∃ e,
      Entry.credit stamp id account o.amount purpose o.source = .ok e ∧ e.operation = id ∧
        e.line = ⟨account, .credit, o.amount, purpose⟩ :=
    fun _ _ _ => Entry.credit_of_isPositive h.positive
  have hdebit : ∀ stamp account purpose, ∃ e,
      Entry.debit stamp id account o.amount purpose o.source = .ok e ∧ e.operation = id ∧
        e.line = ⟨account, .debit, o.amount.negate, purpose⟩ :=
    fun _ _ _ => Entry.debit_of_isPositive h.positive
  cases hmovement : o.movement with
  | deposit target =>
      obtain ⟨main, hmain, hid, hline⟩ := hcredit stamps.firstEntry target .deposit
      cases settlement with
      | none =>
          refine ⟨[main], ?_, by simp [hid], by simp [Movement.lines, hline], nofun⟩
          simp only [Booking.sides, hmovement, hmain]
          rfl
      | some account =>
          obtain ⟨other, hother, hsettles⟩ := hdebit stamps.secondEntry account .depositSettlement
          obtain ⟨hids, hlines, hbalanced⟩ := Entry.pair ⟨hid, hline⟩ hsettles rfl
          refine ⟨[main, other], ?_, hids, hlines, fun _ => hbalanced⟩
          simp only [Booking.sides, hmovement, hmain, hother]
          rfl
  | withdrawal source =>
      obtain ⟨main, hmain, hid, hline⟩ := hdebit stamps.firstEntry source .withdrawal
      cases settlement with
      | none =>
          refine ⟨[main], ?_, by simp [hid], by simp [Movement.lines, hline], nofun⟩
          simp only [Booking.sides, hmovement, hmain]
          rfl
      | some account =>
          obtain ⟨other, hother, hsettles⟩ :=
            hcredit stamps.secondEntry account .withdrawalSettlement
          obtain ⟨hids, hlines, hbalanced⟩ :=
            Entry.pair ⟨hid, hline⟩ hsettles (Money.negate_negate o.amount).symm
          refine ⟨[main, other], ?_, hids, hlines, fun _ => hbalanced⟩
          simp only [Booking.sides, hmovement, hmain, hother]
          rfl
  | transfer source target =>
      obtain ⟨out, hout, hleaves⟩ := hdebit stamps.firstEntry source .transferOut
      obtain ⟨into, hinto, harrives⟩ := hcredit stamps.secondEntry target .transferIn
      obtain ⟨hids, hlines, hbalanced⟩ :=
        Entry.pair hleaves harrives (Money.negate_negate o.amount).symm
      refine ⟨[out, into], ?_, hids, hlines, fun _ => hbalanced⟩
      simp only [Booking.sides, hmovement, hout, hinto]
      rfl

/-- **The entries of a valid order can be built.** They belong to the operation, and they are the
lines of the movement. -/
theorem entries (h : o.Valid currency) (stamps : BookingStamps) (id : OperationId)
    (settlement : Option AccountId) :
    ∃ es, Booking.entries stamps id o settlement = .ok es ∧ (∀ e ∈ es, e.operation = id) ∧
      es.map Entry.line = o.movement.lines settlement o.amount := by
  obtain ⟨es, hes, hid, hlines, hbalanced⟩ := h.sides stamps id settlement
  refine ⟨es, ?_, hid, hlines⟩
  rw [Booking.entries, hes]
  show (if _ then _ else _) = _
  rw [if_neg]
  · rfl
  · intro hbad
    obtain ⟨htwo, hunbalanced⟩ := Bool.and_eq_true_iff.1 hbad
    rw [hbalanced htwo] at hunbalanced
    cases hunbalanced

end Order.Valid
end Daybook
