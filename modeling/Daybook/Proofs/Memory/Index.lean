import Daybook.Store.Memory
import Mathlib.Tactic.Common

/-!
The index of a store in memory, and what a posting does to it. In an indexed store a reference leads
to an operation exactly when the operation has that reference, so no two operations share one
(`Indexed.unique`). A posting, an operation together with its entries, is taken by a commit when the
reference is free and the accounts are there, and by nothing less (`Indexed.commit_cases`).
-/

namespace Daybook

/-- What one booking adds to a store: an operation with its entries. -/
structure Posting where
  operation : Operation
  entries : List Entry

namespace Posting

/-- The draft that holds the posting and nothing else. -/
def draft (p : Posting) : MemoryDraft :=
  ⟨[p.operation], p.entries, false⟩

/-- The entries belong to the operation, and there are some. -/
structure Proper (p : Posting) : Prop where
  nonempty : p.entries ≠ []
  belongs : ∀ {e}, e ∈ p.entries → e.operation = p.operation.id

end Posting

namespace Memory

/-- The store with a posting added, and nothing else changed. -/
def post (m : Memory) (p : Posting) : Memory :=
  { m with
    operations := m.operations.insert p.operation.id p.operation
    owners := m.owners.insert p.operation.reference p.operation.id
    entries := m.entries ++ p.entries }

/-- Operations are stored under their ids, and the index holds their references and no others. -/
structure Indexed (m : Memory) : Prop where
  keyed : ∀ {id op}, m.operations.get? id = some op → op.id = id
  owned : ∀ {r id}, m.owners.get? r = some id →
    ∃ op, m.operations.get? id = some op ∧ op.reference = r
  owns : ∀ {id op}, m.operations.get? id = some op → m.owners.get? op.reference = some id

/-- Stored operations are still stored as they were. -/
def Extends (m m' : Memory) : Prop :=
  ∀ id op, m.operations.get? id = some op → m'.operations.get? id = some op

/-- Stored operations are kept, and the id is still new if it was. -/
structure Spares (id : OperationId) (m m' : Memory) : Prop where
  kept : m.Extends m'
  fresh : m.operations.get? id = none → m'.operations.get? id = none

variable {m m' m'' : Memory} {p : Posting}

/-! ### Searches -/

theorem answer_findAccount {id : AccountId} {found : Option Account}
    (h : m.accounts.get? id = found) : m.answer (.findAccount id) = (.ok found, m) :=
  congrArg (fun found => (Except.ok found, m)) h

theorem answer_findByReference {r : Reference} {found : Option Operation}
    (h : m.findByReference r = found) : m.answer (.findByReference r) = (.ok found, m) :=
  congrArg (fun found => (Except.ok found, m)) h

/-! ### References -/

theorem Indexed.empty : Indexed .empty where
  keyed := nofun
  owned := nofun
  owns := nofun

theorem Indexed.find_iff (hm : m.Indexed) {r : Reference} {op : Operation} :
    m.findByReference r = some op ↔ m.operations.get? op.id = some op ∧ op.reference = r := by
  rw [findByReference, Option.bind_eq_some_iff]
  constructor
  · rintro ⟨id, howner, hop⟩
    obtain ⟨op', hop', rfl⟩ := hm.owned howner
    rw [hop] at hop'
    cases hop'
    exact ⟨by rwa [hm.keyed hop], rfl⟩
  · rintro ⟨hop, rfl⟩
    exact ⟨op.id, hm.owns hop, hop⟩

theorem Indexed.find_of_stored (hm : m.Indexed) {id : OperationId} {op : Operation}
    (hop : m.operations.get? id = some op) : m.findByReference op.reference = some op :=
  hm.find_iff.2 ⟨by rwa [hm.keyed hop], rfl⟩

theorem Indexed.find_eq_none_iff (hm : m.Indexed) {r : Reference} :
    m.findByReference r = none ↔ m.owners.get? r = none := by
  rw [findByReference, Option.bind_eq_none_iff]
  constructor
  · intro h
    cases howner : m.owners.get? r with
    | none => rfl
    | some id =>
        obtain ⟨op, hop, -⟩ := hm.owned howner
        rw [h id howner] at hop
        cases hop
  · intro h id howner
    rw [h] at howner
    cases howner

/-- No two operations share a reference. -/
theorem Indexed.unique (hm : m.Indexed) {id id' : OperationId} {op op' : Operation}
    (h : m.operations.get? id = some op) (h' : m.operations.get? id' = some op')
    (hr : op.reference = op'.reference) : op = op' := by
  have howner := hm.owns h
  rw [hr, hm.owns h'] at howner
  cases howner
  rw [h] at h'
  exact Option.some.inj h'

theorem Indexed.owner_iff (hm : m.Indexed) (r : Reference) (id : OperationId) :
    m.owners.get? r = some id ↔ ∃ op, m.operations.get? id = some op ∧ op.reference = r := by
  constructor
  · exact hm.owned
  · rintro ⟨op, hop, rfl⟩
    exact hm.owns hop

/-! ### What a posting changes -/

theorem find_post (m : Memory) (p : Posting) :
    (m.post p).findByReference p.operation.reference = some p.operation := by
  simp only [findByReference, post, Table.get?_insert_self, Option.bind_some]

theorem get?_post (m : Memory) (p : Posting) (id : OperationId) :
    (m.post p).operations.get? id =
      if id = p.operation.id then some p.operation else m.operations.get? id :=
  Table.get?_insert ..

theorem get?_post_of_fresh (hfresh : m.operations.get? p.operation.id = none) {id : OperationId}
    {op : Operation} (h : m.operations.get? id = some op) :
    (m.post p).operations.get? id = some op := by
  rw [get?_post, if_neg]
  · exact h
  · rintro rfl
    rw [hfresh] at h
    cases h

/-- What is found under other references stays. -/
theorem find_post_of_ne (hm : m.Indexed) (hfresh : m.operations.get? p.operation.id = none) {r : Reference}
    (h : r ≠ p.operation.reference) : (m.post p).findByReference r = m.findByReference r := by
  have howner : (m.post p).owners.get? r = m.owners.get? r := Table.get?_insert_of_ne _ _ h
  rw [findByReference, findByReference, howner]
  cases hr : m.owners.get? r with
  | none => rfl
  | some id =>
      obtain ⟨op, hop, -⟩ := hm.owned hr
      rw [Option.bind_some, Option.bind_some, hop, get?_post_of_fresh hfresh hop]

theorem entriesOfOperation_post_self (hp : p.Proper) :
    (m.post p).entriesOfOperation p.operation.id =
      m.entriesOfOperation p.operation.id ++ p.entries := by
  rw [entriesOfOperation, post, List.filter_append,
    List.filter_eq_self.2 fun e he => beq_iff_eq.2 (hp.belongs he)]
  rfl

theorem entriesOfOperation_post_of_ne (hp : p.Proper) {id : OperationId} (h : id ≠ p.operation.id) :
    (m.post p).entriesOfOperation id = m.entriesOfOperation id := by
  have hnone : p.entries.filter (·.operation == id) = [] := by
    refine List.filter_eq_nil_iff.2 fun e he hid => h ?_
    rw [← beq_iff_eq.1 hid, hp.belongs he]
  rw [entriesOfOperation, post, List.filter_append, hnone, List.append_nil]
  rfl

theorem Indexed.post (hm : m.Indexed) (hfresh : m.operations.get? p.operation.id = none)
    (hfree : m.findByReference p.operation.reference = none) : (m.post p).Indexed := by
  rw [hm.find_eq_none_iff] at hfree
  refine ⟨?_, ?_, ?_⟩
  · intro id op h
    rw [get?_post] at h
    split_ifs at h with hid
    · cases h
      exact hid.symm
    · exact hm.keyed h
  · intro r id h
    rw [Memory.post, Table.get?_insert] at h
    split_ifs at h with hr
    · cases h
      exact ⟨p.operation, by rw [get?_post, if_pos rfl], hr.symm⟩
    · obtain ⟨op, hop, hreference⟩ := hm.owned h
      exact ⟨op, get?_post_of_fresh hfresh hop, hreference⟩
  · intro id op h
    rw [get?_post] at h
    rw [Memory.post, Table.get?_insert]
    split_ifs at h with hid
    · cases h
      rw [if_pos rfl, hid]
    · rw [if_neg]
      · exact hm.owns h
      · intro hr
        have howner := hm.owns h
        rw [hr, hfree] at howner
        cases howner

/-! ### Extension -/

theorem Extends.refl (m : Memory) : m.Extends m :=
  fun _ _ h => h

theorem Extends.trans (h : m.Extends m') (h' : m'.Extends m'') : m.Extends m'' :=
  fun id op hop => h' id op (h id op hop)

theorem Extends.of_eq (h : m'.operations = m.operations) : m.Extends m' := by
  intro id op hop
  rwa [h]

theorem Extends.post (hfresh : m.operations.get? p.operation.id = none) : m.Extends (m.post p) :=
  fun _ _ hop => get?_post_of_fresh hfresh hop

theorem Spares.refl (id : OperationId) (m : Memory) : Spares id m m :=
  ⟨.refl m, fun h => h⟩

theorem Spares.trans {id : OperationId} (h : Spares id m m') (h' : Spares id m' m'') :
    Spares id m m'' :=
  ⟨h.kept.trans h'.kept, fun hid => h'.fresh (h.fresh hid)⟩

/-- An operation is found by its reference for as long as it is stored. -/
theorem Extends.find (h : m.Extends m') (hm : m.Indexed) (hm' : m'.Indexed) {r : Reference}
    {op : Operation} (hop : m.findByReference r = some op) : m'.findByReference r = some op := by
  rw [hm.find_iff] at hop
  exact hm'.find_iff.2 ⟨h _ _ hop.1, hop.2⟩

/-! ### The draft of a posting -/

/-- An operation with a new id may be written exactly when its reference is free. -/
theorem Indexed.checkReference (hm : m.Indexed) {op : Operation}
    (hfresh : m.operations.get? op.id = none) :
    m.checkReference op =
      match m.findByReference op.reference with
      | some _ => .error (.duplicateReference op.reference.text)
      | none => .ok () := by
  rw [Memory.checkReference]
  cases hfind : m.findByReference op.reference with
  | none => rw [hm.find_eq_none_iff.1 hfind]
  | some winner =>
      obtain ⟨hwinner, hreference⟩ := hm.find_iff.1 hfind
      rw [← hreference, hm.owns hwinner]
      have hne : winner.id ≠ op.id := by
        intro hid
        rw [hid, hfresh] at hwinner
        cases hwinner
      simp [hne]

theorem Indexed.insertOperation (hm : m.Indexed) {op : Operation}
    (hfresh : m.operations.get? op.id = none) :
    m.insertOperation .empty op =
      match m.findByReference op.reference with
      | some _ => .error (.duplicateReference op.reference.text)
      | none => .ok ⟨[op], [], false⟩ := by
  rw [Memory.insertOperation, hm.checkReference hfresh]
  cases m.findByReference op.reference <;> rfl

/-- The operation of a draft takes the place of an earlier version of it. -/
theorem updateOperation_draft (m : Memory) (p : Posting) (op : Operation)
    (hid : op.id = p.operation.id) :
    m.updateOperation ⟨[op], p.entries, false⟩ p.operation = .ok p.draft := by
  simp [updateOperation, replaceFirst, hid, Posting.draft]

theorem checkEntry_eq {op : Operation} {e : Entry} (hop : e.operation = op.id) :
    m.checkEntry [op] e =
      if m.accounts.contains e.account then .ok ()
      else .error (.constraint ("entry " ++ e.id.toText ++ " references unknown account " ++
        e.account.toText)) := by
  rw [checkEntry]
  cases m.accounts.contains e.account <;> simp [hop]

/-- The check of the entries finds an account that is not there, if there is one. -/
theorem checkEntries_cases {op : Operation} {es : List Entry} (hes : ∀ e ∈ es, e.operation = op.id) :
    ((∀ e ∈ es, m.accounts.contains e.account = true) ∧ es.forM (m.checkEntry [op]) = .ok ()) ∨
    ∃ detail, (∃ e ∈ es, m.accounts.contains e.account = false) ∧
      es.forM (m.checkEntry [op]) = .error (.constraint detail) := by
  induction es with
  | nil => exact Or.inl ⟨by simp, rfl⟩
  | cons e es ih =>
      have hhead := checkEntry_eq (m := m) (hes e List.mem_cons_self)
      rw [List.forM, hhead]
      cases haccount : m.accounts.contains e.account with
      | false => exact Or.inr ⟨_, ⟨e, List.mem_cons_self, haccount⟩, rfl⟩
      | true =>
          rcases ih fun e he => hes e (List.mem_cons_of_mem _ he) with
            ⟨hall, hok⟩ | ⟨detail, ⟨e', he', hmissing⟩, herror⟩
          · exact Or.inl ⟨List.forall_mem_cons.2 ⟨haccount, hall⟩, hok⟩
          · exact Or.inr ⟨detail, ⟨e', List.mem_cons_of_mem _ he', hmissing⟩, herror⟩

theorem commit_draft (m : Memory) (p : Posting) :
    m.commit p.draft = do
      m.checkReference p.operation
      p.entries.forM (m.checkEntry [p.operation])
      return (⟨[], [], true⟩, m.post p) := by
  rw [commit, Posting.draft, if_neg Bool.false_ne_true]
  show (do (do m.checkReference p.operation; pure ()); _) = _
  cases m.checkReference p.operation <;> rfl

/-- **What a commit of one new operation does.** It is taken as a whole, or its reference has an
owner, or one of its accounts is not there. -/
theorem Indexed.commit_cases (hm : m.Indexed) (hp : p.Proper)
    (hfresh : m.operations.get? p.operation.id = none) :
    (m.findByReference p.operation.reference = none ∧
      (∀ e ∈ p.entries, m.accounts.contains e.account = true) ∧
      m.commit p.draft = .ok (⟨[], [], true⟩, m.post p)) ∨
    (∃ winner, m.findByReference p.operation.reference = some winner ∧
      m.commit p.draft = .error (.duplicateReference p.operation.reference.text)) ∨
    ∃ detail, (∃ e ∈ p.entries, m.accounts.contains e.account = false) ∧
      m.commit p.draft = .error (.constraint detail) := by
  rw [commit_draft, hm.checkReference hfresh]
  cases hfind : m.findByReference p.operation.reference with
  | some winner => exact Or.inr (Or.inl ⟨winner, rfl, rfl⟩)
  | none =>
      rcases checkEntries_cases (m := m) fun e he => hp.belongs he with
        ⟨hall, hok⟩ | ⟨detail, hmissing, herror⟩
      · refine Or.inl ⟨rfl, hall, ?_⟩
        rw [hok]
        rfl
      · refine Or.inr (Or.inr ⟨detail, hmissing, ?_⟩)
        rw [herror]
        rfl

end Memory
end Daybook
