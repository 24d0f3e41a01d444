import Daybook.Proofs.Booking.Checking
import Daybook.Proofs.Booking.Reached
import Daybook.Proofs.Booking.Report

/-!
For which reasons a submission fails that runs alone. The command is malformed, or an account of its
movement is not there, or the settlement account is not fit; the last two count only under a reference
that is not booked. Most errors that the code of a booking can return belong to none of these: the
entries of an order always balance, its operation is always new, and the store always takes them
(`Submission.script_refused_iff`).
-/

namespace Daybook

/-- Errors for what cannot happen to an order that passed all checks, in a store that is in order. -/
def Error.isInternal : Error → Bool
  | .zeroAmount => true
  | .directionMismatch _ _ => true
  | .unbalancedEntries _ => true
  | .money _ => true
  | .alreadyProcessed _ => true
  | .invalidTransition _ _ _ => true
  | .store _ => true
  | _ => false

/-- A rule for commands is broken by the caller. -/
theorem Command.Breaks.isInternal {c : Command} {rule : Rule} {e : Error} (h : c.Breaks rule e) :
    e.isInternal = false := by
  cases h <;> rfl

theorem Movement.isTransfer_eq_false_iff {mv : Movement} :
    mv.isTransfer = false ↔ mv.kind = .deposit ∨ mv.kind = .withdrawal := by
  cases mv <;> simp [isTransfer, kind]

/-- An operation is stored under the reference. -/
def Memory.Booked (m : Memory) (r : Reference) : Prop :=
  ∃ id op, m.operations.get? id = some op ∧ op.reference = r

theorem Memory.Indexed.not_booked_iff {m : Memory} (hm : m.Indexed) {r : Reference} :
    ¬ m.Booked r ↔ m.findByReference r = none := by
  rw [Option.eq_none_iff_forall_ne_some]
  constructor
  · intro hfree op hfind
    obtain ⟨hop, hreference⟩ := hm.find_iff.1 hfind
    exact hfree ⟨op.id, op, hop, hreference⟩
  · rintro hnone ⟨id, op, hop, rfl⟩
    exact hnone op (hm.find_of_stored hop)

namespace Submission

variable {q : Submission} {o : Order} {m : Memory} {e : Error}

/-- The reasons to refuse a submission, with the error for each. -/
inductive Refused (q : Submission) (m : Memory) : Error → Prop where
  | malformed {e : Error} (checked : q.order = .error e) : Refused q m e
  /-- The first account of the movement that is not there. -/
  | unknownAccount {o : Order} {before after : List AccountId} {id : AccountId}
      (checked : q.order = .ok o) (free : ¬ m.Booked o.reference)
      (accounts : o.movement.accounts = before ++ id :: after)
      (present : ∀ a ∈ before, m.accounts.contains a = true)
      (missing : m.accounts.contains id = false) : Refused q m (.accountNotFound id)
  /-- A deposit or a withdrawal, and an account for the other side that is missing or a user's. -/
  | unfitSettlement {o : Order} {id : AccountId}
      (checked : q.order = .ok o) (free : ¬ m.Booked o.reference)
      (present : ∀ a ∈ o.movement.accounts, m.accounts.contains a = true)
      (kind : o.movement.kind = .deposit ∨ o.movement.kind = .withdrawal)
      (configured : q.settings.settlementAccount = some id)
      (unfit : ∀ a, m.accounts.get? id = some a → a.kind = .user) :
      Refused q m (.invalidSettlementAccount id)

/-- A reason is a failed check, or an obstacle under a reference that is free. -/
theorem refused_iff (hm : m.Indexed) :
    q.Refused m e ↔ q.order = .error e ∨
      ∃ o, q.order = .ok o ∧ m.findByReference o.reference = none ∧
        q.obstacle m.accounts o = some e := by
  simp only [obstacle, obstacleAmong_eq_some_iff, settlementObstacle_eq_some_iff,
    Movement.isTransfer_eq_false_iff, ← hm.not_booked_iff]
  constructor
  · rintro (checked | ⟨checked, free, accounts, present, missing⟩ |
      ⟨checked, free, present, kind, configured, unfit⟩)
    · exact Or.inl checked
    · exact Or.inr ⟨_, checked, free, Or.inl ⟨_, _, _, accounts, present, missing, rfl⟩⟩
    · exact Or.inr ⟨_, checked, free, Or.inr ⟨present, _, configured, kind, unfit, rfl⟩⟩
  · rintro (checked | ⟨o, checked, free, ⟨before, id, after, accounts, present, missing, rfl⟩ |
      ⟨present, id, configured, kind, unfit, rfl⟩⟩)
    · exact .malformed checked
    · exact .unknownAccount checked free accounts present missing
    · exact .unfitSettlement checked free present kind configured unfit

/-- No reason is internal. -/
theorem Refused.isInternal (h : q.Refused m e) : e.isInternal = false := by
  cases h with
  | malformed checked =>
      obtain ⟨rule, hbreaks, -⟩ := Command.breaksFirst_of_check checked
      exact hbreaks.isInternal
  | unknownAccount => rfl
  | unfitSettlement => rfl

/-- What ends with an error ends so for a reason, and a reason ends it. -/
theorem Ends.result_eq_error_iff (hm : m.Indexed) {ending : Outcome Memory Booking.Result}
    (h : q.Ends m ending) : ending.result = .error e ↔ q.Refused m e := by
  rw [refused_iff hm]
  cases h with
  | malformed checked => simp [checked]
  | known checked found => simp [checked, found]
  | obstructed checked free obstacle => simp [checked, free, obstacle]
  | booked books free clear => simp [books.checked, free, clear]

/-- **A submission fails for its reasons and for no other.** It returns an operation exactly when there
is no reason to refuse it; if its reference is booked, this is the operation that is stored, whatever
accounts the command names. -/
theorem script_refused_iff (hm : m.Reached fun _ => True) (q : Submission)
    (hfresh : m.operations.get? q.operationId = none) :
    let ending := q.script.run Memory.backend m
    (∀ e, ending.result = .error e ↔ q.Refused m e) ∧
    ((∃ op, ending.result = .ok op) ↔ ∀ e, ¬ q.Refused m e) ∧
    (∀ o id op, q.order = .ok o → m.operations.get? id = some op → op.reference = o.reference →
      ending.result = .ok op) ∧
    ∀ e, ending.result = .error e → e.isInternal = false := by
  intro ending
  have hindexed := hm.consistent.indexed
  have hends : q.Ends m ending := q.run_ends hindexed hfresh
  have hreasons : ∀ e, ending.result = .error e ↔ q.Refused m e :=
    fun e => hends.result_eq_error_iff hindexed
  refine ⟨hreasons, ?_, ?_, fun e he => ((hreasons e).1 he).isInternal⟩
  · simp only [← hreasons]
    cases ending.result <;> simp
  · intro o id op hchecked hop hreference
    have hfind : m.findByReference o.reference = some op :=
      hreference ▸ hindexed.find_of_stored hop
    generalize ending = outcome at hends
    cases hends with
    | malformed checked => cases hchecked.symm.trans checked
    | known checked found =>
        cases hchecked.symm.trans checked
        cases hfind.symm.trans found
        rfl
    | obstructed checked free _ =>
        cases hchecked.symm.trans checked
        cases hfind.symm.trans free
    | booked books free _ =>
        cases hchecked.symm.trans books.checked
        cases hfind.symm.trans free

/-- A transfer between two accounts that are not there. -/
def strayTransfer (reference : String) : Submission :=
  counted (.transfer reference ⟨⟨8⟩⟩ ⟨⟨9⟩⟩ ((Decimal.ofNat? 5).getD .zero)) 20

/-- It is refused for the first of them under a new reference, and answered under a booked one. -/
theorem script_refused_strayTransfer :
    Memory.onceDeposited.Reached (fun _ => True) ∧
    ((strayTransfer "R-2").script.run Memory.backend .onceDeposited).result =
      .error (.accountNotFound ⟨⟨8⟩⟩) ∧
    ∃ op, ((strayTransfer "R-1").script.run Memory.backend .onceDeposited).result = .ok op := by
  have hreached : Memory.onceDeposited.Reached fun _ => True := Memory.reached_onceDeposited trivial
  obtain ⟨hreasons, -, -, -⟩ := script_refused_iff hreached (strayTransfer "R-2") rfl
  obtain ⟨-, -, hknown, -⟩ := script_refused_iff hreached (strayTransfer "R-1") rfl
  have hindexed := hreached.consistent.indexed
  have haccounts : ([⟨⟨8⟩⟩, ⟨⟨9⟩⟩] : List AccountId) = [] ++ ⟨⟨8⟩⟩ :: [⟨⟨9⟩⟩] := rfl
  refine ⟨hreached, (hreasons _).2 ?_, _, hknown _ ⟨⟨10⟩⟩ _ rfl rfl rfl⟩
  exact .unknownAccount rfl (hindexed.not_booked_iff.2 rfl) haccounts (List.forall_mem_nil _) rfl

end Submission
end Daybook
