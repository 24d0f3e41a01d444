import Daybook.Proofs.Results
import Daybook.Store.Memory

/-!
What a call does to a store in memory. It leaves the store as it is, or inserts or deletes one row,
or takes a draft, and it does so under conditions that it has checked (`Memory.Effect`). No more is
possible, whatever draft the call is given (`Memory.effect_answer`).
-/

namespace Daybook.Memory

/-- What a call may do to a store, with what it has checked before. -/
inductive Effect (m : Memory) : Call MemoryDraft → Memory → Prop
  | none (c : Call MemoryDraft) : Effect m c m
  | insertAccount {a : Account} (free : m.accounts.contains a.id = false) :
      Effect m (.insertAccount a) { m with accounts := m.accounts.insert a.id a }
  | deleteAccount {id : AccountId} (unused : m.usesAccount id = false) :
      Effect m (.deleteAccount id) { m with accounts := m.accounts.erase id }
  | deleteOperation {id : OperationId} {op : Operation} (unused : m.usesOperation id = false)
      (stored : m.operations.get? id = some op) :
      Effect m (.deleteOperation id)
        { m with operations := m.operations.erase id, owners := m.owners.erase op.reference }
  | insertReconciliation {r : Reconciliation} (present : m.accounts.contains r.account = true)
      (unknown : ∀ r' ∈ m.reconciliations, r'.id ≠ r.id) :
      Effect m (.insertReconciliation r) { m with reconciliations := m.reconciliations ++ [r] }
  | commit {d : MemoryDraft} (taken : m.commit d = .ok (⟨[], [], true⟩, m.apply d))
      (references : ∀ op ∈ d.operations, m.checkReference op = .ok ())
      (entries : ∀ e ∈ d.entries, m.checkEntry d.operations e = .ok ()) :
      Effect m (.commit d) (m.apply d)

variable {m : Memory} {d : MemoryDraft}

/-! ### The checks of a commit -/

/-- A commit fails, or all its checks pass and the draft is taken. -/
theorem commit_cases (m : Memory) (d : MemoryDraft) :
    (∃ e, m.commit d = .error e) ∨
      (∀ op ∈ d.operations, m.checkReference op = .ok ()) ∧
        (∀ e ∈ d.entries, m.checkEntry d.operations e = .ok ()) ∧
          m.commit d = .ok (⟨[], [], true⟩, m.apply d) := by
  rw [commit]
  split_ifs with hcommitted
  · exact Or.inl ⟨_, rfl⟩
  cases hreferences : d.operations.forM m.checkReference with
  | error e => exact Or.inl ⟨e, rfl⟩
  | ok u =>
      cases hentries : d.entries.forM (m.checkEntry d.operations) with
      | error e => exact Or.inl ⟨e, rfl⟩
      | ok u => exact Or.inr ⟨forM_eq_ok_iff.1 hreferences, forM_eq_ok_iff.1 hentries, rfl⟩

theorem checkReference_eq_ok_iff {op : Operation} :
    m.checkReference op = .ok () ↔ ∀ owner, m.owners.get? op.reference = some owner → owner = op.id := by
  rw [checkReference]
  cases m.owners.get? op.reference <;> simp

theorem checkEntry_eq_ok_iff {pending : List Operation} {e : Entry} :
    m.checkEntry pending e = .ok () ↔
      (m.operations.contains e.operation = true ∨ ∃ op ∈ pending, op.id = e.operation) ∧
        m.accounts.contains e.account = true := by
  have hthere : (m.operations.contains e.operation || pending.any (·.id == e.operation)) = true ↔
      m.operations.contains e.operation = true ∨ ∃ op ∈ pending, op.id = e.operation := by simp
  rw [checkEntry, ← hthere]
  cases m.operations.contains e.operation || pending.any (·.id == e.operation) <;>
    cases m.accounts.contains e.account <;> simp

/-! ### All calls -/

/-- A record is kept if its account is there and its id is new, and refused otherwise. -/
theorem answer_insertReconciliation (m : Memory) (r : Reconciliation) :
    (m.accounts.contains r.account = true ∧ (∀ r' ∈ m.reconciliations, r'.id ≠ r.id) ∧
      m.answer (.insertReconciliation r) =
        (.ok (), { m with reconciliations := m.reconciliations ++ [r] })) ∨
    ((m.accounts.contains r.account = true → ∃ r' ∈ m.reconciliations, r'.id = r.id) ∧
      ∃ cause, m.answer (.insertReconciliation r) = (.error cause, m)) := by
  have hanswer : m.answer (.insertReconciliation r) =
      m.changed ((m.insertReconciliation r).map ((), ·)) := rfl
  rw [insertReconciliation] at hanswer
  split_ifs at hanswer with hmissing hknown
  · refine Or.inr ⟨fun hpresent => ?_, _, hanswer⟩
    rw [hpresent] at hmissing
    cases hmissing
  · exact Or.inr ⟨fun _ => by simpa using hknown, _, hanswer⟩
  · exact Or.inl ⟨by simpa using hmissing, by simpa using hknown, hanswer⟩

/-- **Every call has one of the effects**, also one that is given an arbitrary draft. -/
theorem effect_answer (m : Memory) (c : Call MemoryDraft) : m.Effect c (m.answer c).2 := by
  cases c with
  | insertAccount a =>
      show m.Effect _ (m.changed ((m.insertAccount a).map ((), ·))).2
      rw [Memory.insertAccount]
      cases hthere : m.accounts.contains a.id with
      | true => exact .none _
      | false => exact .insertAccount hthere
  | deleteAccount id =>
      show m.Effect _ (m.changed (m.deleteAccount id)).2
      rw [Memory.deleteAccount]
      cases hused : m.usesAccount id with
      | true => exact .none _
      | false => exact .deleteAccount hused
  | deleteOperation id =>
      show m.Effect _ (m.changed (m.deleteOperation id)).2
      rw [Memory.deleteOperation]
      cases hused : m.usesOperation id with
      | true => exact .none _
      | false =>
          cases hop : m.operations.get? id with
          | none => exact .none _
          | some op => exact .deleteOperation hused hop
  | insertReconciliation r =>
      rcases m.answer_insertReconciliation r with ⟨present, unknown, hanswer⟩ | ⟨-, cause, hanswer⟩
      · rw [hanswer]
        exact .insertReconciliation present unknown
      · rw [hanswer]
        exact .none _
  | commit d =>
      show m.Effect _ (m.changed (m.commit d)).2
      rcases m.commit_cases d with ⟨e, hcommit⟩ | ⟨hreferences, hentries, hcommit⟩
      · rw [hcommit]
        exact .none _
      · rw [hcommit]
        exact .commit hcommit hreferences hentries
  | _ => exact .none _

/-! ### What a commit leaves alone -/

/-- Putting operations changes the operations and the index, and nothing else. -/
theorem foldl_put_rest (m : Memory) (ops : List Operation) :
    (ops.foldl put m).accounts = m.accounts ∧ (ops.foldl put m).entries = m.entries ∧
      (ops.foldl put m).reconciliations = m.reconciliations := by
  induction ops generalizing m with
  | nil => exact ⟨rfl, rfl, rfl⟩
  | cons op ops ih => exact ih (m.put op)

@[simp]
theorem accounts_apply (m : Memory) (d : MemoryDraft) : (m.apply d).accounts = m.accounts :=
  (foldl_put_rest m d.operations).1

@[simp]
theorem entries_apply (m : Memory) (d : MemoryDraft) :
    (m.apply d).entries = m.entries ++ d.entries :=
  congrArg (· ++ d.entries) (foldl_put_rest m d.operations).2.1

@[simp]
theorem reconciliations_apply (m : Memory) (d : MemoryDraft) :
    (m.apply d).reconciliations = m.reconciliations :=
  (foldl_put_rest m d.operations).2.2

theorem operations_put (m : Memory) (op : Operation) (id : OperationId) :
    (m.put op).operations.get? id = if id = op.id then some op else m.operations.get? id :=
  Table.get?_insert ..

theorem owners_put (m : Memory) (op : Operation) (r : Reference) :
    (m.put op).owners.get? r = if r = op.reference then some op.id else m.owners.get? r :=
  Table.get?_insert ..

end Daybook.Memory
