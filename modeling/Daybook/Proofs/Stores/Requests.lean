import Daybook.Proofs.Booking.Submission
import Daybook.Proofs.Script.Atomic
import Daybook.Reconciliation.Service

/-!
Requests to the ledger. A request is a script for any kind of store, with what it takes from outside
as arguments, so that a list of requests can be put to two stores and their answers compared
(`serve`). Two answers are alike if they are equal, or if the store refused both times for the same
kind of reason (`Alike`).
-/

namespace Daybook

/-! ### How a script ends -/

namespace Script

variable {σ Draft α β : Type} {b : Backend σ Draft} {s t : σ}

/-- The result of a script that runs alone, and the store after it. -/
def ending (b : Backend σ Draft) (script : Script Draft α) (s : σ) : α × σ :=
  ((script.run b s).result, (script.run b s).state)

def map (f : α → β) (script : Script Draft α) : Script Draft β :=
  script.bind fun a => .done (f a)

theorem ending_emit (e : Event) (next : Script Draft α) :
    (Script.emit e next).ending b s = next.ending b s :=
  rfl

theorem ending_call {c : Call Draft} {next : c.Reply → Script Draft α} {r : c.Reply}
    (h : b.Answers c s r t) : (Script.call c next).ending b s = (next r).ending b t := by
  obtain ⟨rfl, rfl⟩ := h
  rfl

theorem run_map (b : Backend σ Draft) (f : α → β) (script : Script Draft α) (s : σ) :
    (script.map f).run b s =
      ⟨f (script.run b s).result, (script.run b s).events, (script.run b s).state⟩ := by
  simp only [map, run_bind, run, List.append_nil]

theorem ending_map (f : α → β) (script : Script Draft α) :
    (script.map f).ending b s = (f (script.ending b s).1, (script.ending b s).2) := by
  rw [ending, run_map]
  rfl

end Script

/-! ### Requests -/

/-- No two stamps that are apart share an id or a moment. -/
def Stamp.Apart (a b : Stamp) : Prop :=
  a.id ≠ b.id ∧ a.time ≠ b.time

instance (a b : Stamp) : Decidable (a.Apart b) :=
  inferInstanceAs (Decidable (_ ∧ _))

inductive Request where
  | insertAccount (account : Account)
  | deleteAccount (id : AccountId)
  | deleteOperation (id : OperationId)
  | process (submission : Submission)
  | balance (now : Time) (currency : Currency) (account : AccountId)
  | balanceAt (cutoff : Time) (currency : Currency) (account : AccountId)
  | reconcile (stamp : Stamp) (currency : Currency) (account : AccountId) (expected : Decimal)
  | history (account : AccountId)
  | dashboard (currency : Currency) (limit : Nat)
  | analyze (id : ReconciliationId) (limit : Nat)

/-- What a request is answered with when it succeeds. -/
inductive Response where
  | inserted
  | deleted (there : Bool)
  | operation (op : Operation)
  | balance (b : Balance)
  | record (r : Reconciliation)
  | records (rs : List Reconciliation)
  | summary (s : Summary)
  | report (r : DivergenceReport)

namespace Request

def script {Draft : Type} : Request → Script Draft (Except Error Response)
  | .insertAccount a =>
      .call (.insertAccount a) fun reply => Script.andThen reply fun _ => .done (.ok .inserted)
  | .deleteAccount id =>
      .call (.deleteAccount id) fun reply =>
        Script.andThen reply fun there => .done (.ok (.deleted there))
  | .deleteOperation id =>
      .call (.deleteOperation id) fun reply =>
        Script.andThen reply fun there => .done (.ok (.deleted there))
  | .process q => q.script.map (Except.map .operation)
  | .balance now currency account =>
      (Balance.current now currency account).map (Except.map .balance)
  | .balanceAt cutoff currency account =>
      (Balance.atMoment cutoff currency account).map (Except.map .balance)
  | .reconcile stamp currency account expected =>
      (Reconciliation.reconcile stamp currency account expected).map (Except.map .record)
  | .history account => (Reconciliation.history account).map (Except.map .records)
  | .dashboard currency limit => (Reconciliation.summary currency limit).map (Except.map .summary)
  | .analyze id limit => (Reconciliation.analyze id limit).map (Except.map .report)

/-- The stamps for what the request may write. -/
def stamps : Request → List Stamp
  | .process q => [q.stamps.operation, q.stamps.firstEntry, q.stamps.secondEntry]
  | .reconcile stamp _ _ _ => [stamp]
  | _ => []

/-- The number of entries it asks for can be put to a database. -/
def Limited : Request → Prop
  | .analyze _ limit => limit < twos 63
  | _ => True

end Request

/-- The answers of a store to requests, one after the other, and the store after them. -/
def serve {σ Draft : Type} (b : Backend σ Draft) :
    List Request → σ → List (Except Error Response) × σ
  | [], s => ([], s)
  | q :: qs, s =>
    let (answer, s) := q.script.ending b s
    let (answers, s) := serve b qs s
    (answer :: answers, s)

/-- Equal, or refused by the store for the same kind of reason. -/
inductive Alike {α : Type} : Except Error α → Except Error α → Prop
  | same (r : Except Error α) : Alike r r
  | refused {cause cause' : StoreError} (kind : cause.kind = cause'.kind) :
      Alike (.error (.store cause)) (.error (.store cause'))

end Daybook
