import Daybook.Proofs.Memory.Effect

/-!
Units of work on a store in memory. A commit succeeds exactly when the store accepts the draft
(`Memory.commit_eq_ok_iff`), and then the store has the accounts and records that it had, the entries
of the draft after its own, and under each id and each reference the last operation of the draft
that has it (`Memory.takes_apply`). Any call that fails leaves the store as it was, and any call that
succeeds does what it is for, whatever was checked before (`Memory.answer_cases`).
-/

namespace Daybook.Memory

variable {m : Memory} {d : MemoryDraft}

/-- What a draft needs to be committed: it has not been committed before, its references are free or
belong to its own operations, and what its entries name is there or comes with it. -/
structure Accepts (m : Memory) (d : MemoryDraft) : Prop where
  uncommitted : d.committed = false
  references : ∀ op ∈ d.operations, ∀ owner, m.owners.get? op.reference = some owner → owner = op.id
  entries : ∀ e ∈ d.entries,
    (m.operations.contains e.operation = true ∨ ∃ op ∈ d.operations, op.id = e.operation) ∧
      m.accounts.contains e.account = true

/-- The second store has all of the draft besides what the first one has. -/
structure Takes (m : Memory) (d : MemoryDraft) (m' : Memory) : Prop where
  accounts : m'.accounts = m.accounts
  reconciliations : m'.reconciliations = m.reconciliations
  entries : m'.entries = m.entries ++ d.entries
  operations : ∀ id, m'.operations.get? id =
    (d.operations.reverse.find? fun op => id = op.id).or (m.operations.get? id)
  owners : ∀ r, m'.owners.get? r =
    ((d.operations.reverse.find? fun op => r = op.reference).map (·.id)).or (m.owners.get? r)

/-! ### Writes and commits -/

/-- A new operation goes to the end of the draft, unless its reference belongs to another one. -/
theorem insertOperation_eq_ok_iff {op : Operation} {d' : MemoryDraft} :
    m.insertOperation d op = .ok d' ↔
      (∀ owner, m.owners.get? op.reference = some owner → owner = op.id) ∧
        (∀ op' ∈ d.operations, op'.reference ≠ op.reference) ∧
          d' = { d with operations := d.operations ++ [op] } := by
  rw [insertOperation, except_bind_eq_ok, ← checkReference_eq_ok_iff]
  split_ifs with hpending
  · obtain ⟨op', hop', hreference⟩ := List.any_eq_true.1 hpending
    refine iff_of_false ?_ fun h => h.2.1 op' hop' (beq_iff_eq.1 hreference)
    rintro ⟨_, -, ⟨⟩⟩
  · have hother : ∀ op' ∈ d.operations, op'.reference ≠ op.reference := by simpa using hpending
    constructor
    · rintro ⟨_, hchecked, ⟨⟩⟩
      exact ⟨hchecked, hother, rfl⟩
    · rintro ⟨hchecked, -, rfl⟩
      exact ⟨(), hchecked, rfl⟩

/-- An update goes to the place of the operation in the draft, or to its end if the operation is
stored with that reference. -/
theorem updateOperation_eq_ok {op : Operation} {d' : MemoryDraft} (h : m.updateOperation d op = .ok d') :
    d.operations.any (·.id == op.id) = true ∧
        d' = { d with operations := replaceFirst (·.id == op.id) op d.operations } ∨
      d.operations.any (·.id == op.id) = false ∧
        (∃ stored, m.operations.get? op.id = some stored ∧ stored.reference = op.reference) ∧
          d' = { d with operations := d.operations ++ [op] } := by
  rw [updateOperation] at h
  split_ifs at h with hpending
  · cases h
    exact Or.inl ⟨hpending, rfl⟩
  · cases hstored : m.operations.get? op.id with
    | none =>
        rw [hstored] at h
        cases h
    | some stored =>
        rw [hstored] at h
        simp only at h
        split_ifs at h with hreference
        cases h
        exact Or.inr ⟨by simpa using hpending, ⟨stored, rfl, hreference⟩, rfl⟩

/-- **A commit succeeds exactly when the store accepts the draft,** and takes it as a whole. -/
theorem commit_eq_ok_iff {result : MemoryDraft × Memory} :
    m.commit d = .ok result ↔ m.Accepts d ∧ result = (⟨[], [], true⟩, m.apply d) := by
  rw [commit]
  split_ifs with hcommitted
  · constructor
    · rintro ⟨⟩
    · rintro ⟨haccepts, -⟩
      rw [haccepts.uncommitted] at hcommitted
      cases hcommitted
  · simp only [except_bind_eq_ok, forM_eq_ok_iff, checkReference_eq_ok_iff, checkEntry_eq_ok_iff]
    constructor
    · rintro ⟨_, hreferences, _, hentries, ⟨⟩⟩
      exact ⟨⟨by simpa using hcommitted, hreferences, hentries⟩, rfl⟩
    · rintro ⟨haccepts, rfl⟩
      exact ⟨(), haccepts.references, (), haccepts.entries, rfl⟩

/-! ### What a commit leaves behind -/

theorem operations_foldl_put (m : Memory) (ops : List Operation) (id : OperationId) :
    (ops.foldl put m).operations.get? id =
      (ops.reverse.find? fun op => id = op.id).or (m.operations.get? id) := by
  induction ops generalizing m with
  | nil => rfl
  | cons op ops ih =>
      rw [List.foldl_cons, ih, operations_put, List.reverse_cons, List.find?_append, Option.or_assoc]
      congr 1
      by_cases hid : id = op.id <;> simp [hid]

theorem owners_foldl_put (m : Memory) (ops : List Operation) (r : Reference) :
    (ops.foldl put m).owners.get? r =
      ((ops.reverse.find? fun op => r = op.reference).map (·.id)).or (m.owners.get? r) := by
  induction ops generalizing m with
  | nil => rfl
  | cons op ops ih =>
      rw [List.foldl_cons, ih, owners_put, List.reverse_cons, List.find?_append, Option.map_or,
        Option.or_assoc]
      congr 1
      by_cases hr : r = op.reference <;> simp [hr]

theorem takes_apply (m : Memory) (d : MemoryDraft) : m.Takes d (m.apply d) where
  accounts := accounts_apply m d
  reconciliations := reconciliations_apply m d
  entries := entries_apply m d
  operations := operations_foldl_put m d.operations
  owners := owners_foldl_put m d.operations

/-! ### Calls that succeed -/

/-- What a call is for, without any check. -/
def perform (m : Memory) : Call MemoryDraft → Memory
  | .insertAccount a => { m with accounts := m.accounts.insert a.id a }
  | .deleteAccount id => { m with accounts := m.accounts.erase id }
  | .deleteOperation id =>
    match m.operations.get? id with
    | some op =>
      { m with operations := m.operations.erase id, owners := m.owners.erase op.reference }
    | none => m
  | .commit d => m.apply d
  | .insertReconciliation r => { m with reconciliations := m.reconciliations ++ [r] }
  | _ => m

theorem changed_cases {α : Type} {m' : Memory} (r : Except StoreError (α × Memory))
    (h : ∀ a m'', r = .ok (a, m'') → m'' = m') :
    (m.changed r).1.isOk = false ∧ (m.changed r).2 = m ∨
      (m.changed r).1.isOk = true ∧ (m.changed r).2 = m' := by
  cases r with
  | error e => exact Or.inl ⟨rfl, rfl⟩
  | ok result => exact Or.inr ⟨rfl, h result.1 result.2 rfl⟩

/-- A call that never changes the store does as little when it fails as when it succeeds. -/
theorem same_cases {α : Type} (r : Except StoreError α) :
    r.isOk = false ∧ m = m ∨ r.isOk = true ∧ m = m := by
  cases r with
  | error e => exact Or.inl ⟨rfl, rfl⟩
  | ok a => exact Or.inr ⟨rfl, rfl⟩

/-- **A call that fails changes nothing, and one that succeeds does what it is for.** -/
theorem answer_cases (m : Memory) (c : Call MemoryDraft) :
    (m.answer c).1.isOk = false ∧ (m.answer c).2 = m ∨
      (m.answer c).1.isOk = true ∧ (m.answer c).2 = m.perform c := by
  cases c with
  | insertAccount a =>
      refine changed_cases _ fun u m'' h => ?_
      rw [Memory.insertAccount] at h
      split_ifs at h <;> cases h
      rfl
  | deleteAccount id =>
      refine changed_cases _ fun found m'' h => ?_
      rw [Memory.deleteAccount] at h
      split_ifs at h
      cases h
      rfl
  | deleteOperation id =>
      refine changed_cases _ fun found m'' h => ?_
      rw [Memory.deleteOperation] at h
      rw [perform]
      split_ifs at h
      cases hop : m.operations.get? id <;> rw [hop] at h <;> cases h <;> rfl
  | insertReconciliation r =>
      refine changed_cases _ fun u m'' h => ?_
      rw [Memory.insertReconciliation] at h
      split_ifs at h <;> cases h
      rfl
  | commit d =>
      refine changed_cases _ fun d' m'' h => ?_
      exact congrArg Prod.snd (commit_eq_ok_iff.1 h).2
  | insertOperation d op => exact same_cases (m.insertOperation d op)
  | updateOperation d op => exact same_cases (m.updateOperation d op)
  | _ => exact Or.inr ⟨rfl, rfl⟩

end Daybook.Memory
