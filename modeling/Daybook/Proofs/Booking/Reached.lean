import Daybook.Proofs.Booking.Atomicity
import Daybook.Reconciliation.Service

/-!
The stores that are reached by submissions, one after the other, each under a schedule of its own,
with edits and reconciliations in between. All of them are consistent (`Memory.Reached.consistent`):
each stored operation has the posting of a submission, and each entry that settles is on an account
that can.
-/

namespace Daybook

/-- Reconciling leaves the books as they are. -/
theorem Reconciliation.calls_reconcile (stamp : Stamp) (currency : Currency) (account : AccountId)
    (expected : Decimal) :
    (reconcile stamp currency account expected).Calls fun c => ∀ m : Memory, m.SameBooks (m.answer c).2 := by
  rw [reconcile]
  split_ifs
  · trivial
  refine ⟨fun m => .refl m, fun r => ?_⟩
  rcases r with e | _ | a
  · trivial
  · trivial
  refine ⟨fun m => .refl m, fun r => ?_⟩
  rcases r with e | es
  · trivial
  simp only [Script.andThen]
  split
  · trivial
  split
  · trivial
  refine ⟨fun m => Memory.sameBooks_insertReconciliation m _, fun r => ?_⟩
  rcases r with e | -
  · trivial
  · trivial

namespace Submission

/-- What the submission answers when it runs alone under a schedule, and the store after it. -/
def submit (q : Submission) (schedule : List Disturbance) (m : Memory) : Booking.Result × Memory :=
  let o := q.script.run Memory.backend.disturbed (schedule, m)
  (o.result, o.state.2)

/-- The step of a submission that runs alone, under any schedule. -/
theorem submit_acts (q : Submission) {m : Memory} (hm : m.Indexed)
    (hfresh : m.operations.get? q.operationId = none) (schedule : List Disturbance) :
    q.Acts ⟨some m.accounts, True⟩ m (q.submit schedule m).1 (q.submit schedule m).2 := by
  have hsound : Circumstances.Sound ⟨some m.accounts, True⟩ m := ⟨hm, fun h => Option.some.inj h⟩
  exact Script.Atomic.run Memory.backend.disturbed Prod.snd Memory.answers_disturbed
    (fun s => Memory.Spares.refl q.operationId s) (fun hs hact => hact.sound hs) _ _ hsound
    (q.atomic _ hfresh)

end Submission

namespace Memory

/-- The stores reached from one with nothing in it, by submissions whose settings are allowed. -/
inductive Reached (allowed : Settings → Prop) : Memory → Prop
  | empty : Reached allowed .empty
  | submit {m : Memory} (hm : Reached allowed m) (q : Submission) (hsettings : allowed q.settings)
      (hfresh : m.operations.get? q.operationId = none) (schedule : List Disturbance) :
      Reached allowed (q.submit schedule m).2
  | edit {m : Memory} (hm : Reached allowed m) (e : Edit) : Reached allowed (m.edit e)
  | reconcile {m : Memory} (hm : Reached allowed m) (stamp : Stamp) (currency : Currency)
      (account : AccountId) (expected : Decimal) (schedule : List Disturbance) :
      Reached allowed ((Reconciliation.reconcile stamp currency account expected).run
        backend.disturbed (schedule, m)).state.2

/-- The posting of a submission whose settings are allowed. -/
def Posted (allowed : Settings → Prop) (p : Posting) : Prop :=
  ∃ q : Submission, allowed q.settings ∧ ∃ o, q.Books o p

theorem Posted.proper {allowed : Settings → Prop} {p : Posting} (h : Posted allowed p) : p.Proper := by
  obtain ⟨q, -, o, hbooks⟩ := h
  exact hbooks.proper

theorem sameBooks_reconcile (stamp : Stamp) (currency : Currency) (account : AccountId)
    (expected : Decimal) (schedule : List Disturbance) (m : Memory) :
    m.SameBooks ((Reconciliation.reconcile stamp currency account expected).run
      backend.disturbed (schedule, m)).state.2 := by
  refine Script.Calls.keeps SameBooks.refl SameBooks.trans ?_
    (Reconciliation.calls_reconcile stamp currency account expected) (schedule, m)
  exact fun m hc => hc m

/-- **Every store that is reached is consistent.** -/
theorem Reached.consistent {allowed : Settings → Prop} {m : Memory} (h : m.Reached allowed) :
    m.Consistent (Posted allowed) fun e a => e.purpose.isSettlement = true → a.kind.canSettle = true := by
  induction h with
  | empty => exact .empty
  | submit hm q hsettings hfresh schedule ih =>
      refine (q.submit_acts ih.indexed hfresh schedule).consistent ih
        (fun hbooks => ⟨q, hsettings, _, hbooks⟩) ?_
      intro o p hbooks hclear e a he ha
      exact hbooks.suits (hclear rfl) he ha
  | edit hm e ih => exact ih.of_sameBooks (ih.edit Posted.proper e)
  | reconcile hm stamp currency account expected schedule ih =>
      exact ih.of_sameBooks (sameBooks_reconcile stamp currency account expected schedule _)

/-- A store with one account and nothing else. -/
def opened : Memory :=
  Memory.empty.edit (.insertAccount Submission.depositAccount)

/-- The store after the first of two deposits. -/
def onceDeposited : Memory :=
  ((Submission.twoDeposits false).submit [] opened).2

theorem reached_opened {allowed : Settings → Prop} : opened.Reached allowed :=
  .edit .empty _

theorem reached_onceDeposited {allowed : Settings → Prop} (h : allowed .default) :
    onceDeposited.Reached allowed :=
  .submit reached_opened _ h rfl []

end Memory
end Daybook
