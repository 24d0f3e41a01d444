import Daybook.Proofs.Memory.Effect
import Daybook.Proofs.Memory.Index

/-!
Consistent stores. Every stored operation came with its entries from one posting, every entry is on
an operation and on an account that are there, and the index is in order. Edits are what others may
do to a store apart from booking; because a stored operation has entries, and entries keep their
operation and their account from being deleted, an edit leaves the books as they are
(`Consistent.edit`).
-/

namespace Daybook

/-- A change to a store that is not a booking. -/
inductive Edit where
  | insertAccount (account : Account)
  | deleteAccount (id : AccountId)
  | deleteOperation (id : OperationId)
  | insertReconciliation (record : Reconciliation)

def Edit.call : Edit → Call MemoryDraft
  | .insertAccount account => .insertAccount account
  | .deleteAccount id => .deleteAccount id
  | .deleteOperation id => .deleteOperation id
  | .insertReconciliation record => .insertReconciliation record

namespace Memory

/-- The store after an edit, which may have been refused. -/
def edit (e : Edit) (m : Memory) : Memory :=
  (m.answer e.call).2

/-- Operations, index and entries are the same, and so are the accounts that entries are on. -/
structure SameBooks (m m' : Memory) : Prop where
  operations : m'.operations = m.operations
  owners : m'.owners = m.owners
  entries : m'.entries = m.entries
  accounts : ∀ {e a}, e ∈ m.entries → m.accounts.get? e.account = some a →
    m'.accounts.get? e.account = some a

/-- The operations of the store were posted with their entries, each entry on an account that suits
it. -/
structure Consistent (posts : Posting → Prop) (suits : Entry → Account → Prop) (m : Memory) :
    Prop where
  indexed : m.Indexed
  posted : ∀ {id op}, m.operations.get? id = some op → posts ⟨op, m.entriesOfOperation id⟩
  linked : ∀ {e}, e ∈ m.entries → ∃ op, m.operations.get? e.operation = some op
  placed : ∀ {e}, e ∈ m.entries → ∃ a, m.accounts.get? e.account = some a ∧ suits e a

variable {posts posts' : Posting → Prop} {suits : Entry → Account → Prop} {m m' m'' : Memory}
  {p : Posting}

/-! ### The same books -/

theorem SameBooks.refl (m : Memory) : m.SameBooks m :=
  ⟨rfl, rfl, rfl, fun _ h => h⟩

theorem SameBooks.trans (h : m.SameBooks m') (h' : m'.SameBooks m'') : m.SameBooks m'' where
  operations := h'.operations.trans h.operations
  owners := h'.owners.trans h.owners
  entries := h'.entries.trans h.entries
  accounts he ha := h'.accounts (by rwa [h.entries]) (h.accounts he ha)

theorem SameBooks.spares (h : m.SameBooks m') (id : OperationId) : Spares id m m' :=
  ⟨.of_eq h.operations, fun hid => by rwa [h.operations]⟩

theorem SameBooks.indexed (h : m.SameBooks m') (hm : m.Indexed) : m'.Indexed := by
  refine ⟨?_, ?_, ?_⟩
  · rw [h.operations]
    exact hm.keyed
  · rw [h.operations, h.owners]
    exact hm.owned
  · rw [h.operations, h.owners]
    exact hm.owns

theorem Consistent.of_sameBooks (hm : m.Consistent posts suits) (h : m.SameBooks m') :
    m'.Consistent posts suits := by
  refine ⟨h.indexed hm.indexed, ?_, ?_, ?_⟩
  · intro id op hop
    rw [h.operations] at hop
    rw [entriesOfOperation, h.entries]
    exact hm.posted hop
  · rw [h.operations, h.entries]
    exact hm.linked
  · rw [h.entries]
    intro e he
    obtain ⟨a, ha, hsuits⟩ := hm.placed he
    exact ⟨a, h.accounts he ha, hsuits⟩

/-! ### Consistency -/

theorem Consistent.empty : Consistent posts suits .empty where
  indexed := .empty
  posted := nofun
  linked := nofun
  placed := nofun

theorem Consistent.mono (hm : m.Consistent posts suits) (h : ∀ p, posts p → posts' p) :
    m.Consistent posts' suits :=
  ⟨hm.indexed, fun hop => h _ (hm.posted hop), hm.linked, hm.placed⟩

/-- An id that is new has no entries. -/
theorem Consistent.entriesOfOperation_of_fresh (hm : m.Consistent posts suits) {id : OperationId}
    (hfresh : m.operations.get? id = none) : m.entriesOfOperation id = [] := by
  refine List.filter_eq_nil_iff.2 fun e he hid => ?_
  obtain ⟨op, hop⟩ := hm.linked he
  rw [beq_iff_eq.1 hid, hfresh] at hop
  cases hop

/-- A posting keeps the store consistent. -/
theorem Consistent.post (hm : m.Consistent posts suits) (hp : p.Proper) (hposts : posts p)
    (hfresh : m.operations.get? p.operation.id = none)
    (hfree : m.findByReference p.operation.reference = none)
    (hplaced : ∀ e ∈ p.entries, ∃ a, m.accounts.get? e.account = some a ∧ suits e a) :
    (m.post p).Consistent posts suits := by
  refine ⟨hm.indexed.post hfresh hfree, ?_, ?_, ?_⟩
  · intro id op hop
    rw [get?_post] at hop
    split_ifs at hop with hid
    · cases hop
      rw [hid, entriesOfOperation_post_self hp, hm.entriesOfOperation_of_fresh hfresh, List.nil_append]
      exact hposts
    · rw [entriesOfOperation_post_of_ne hp hid]
      exact hm.posted hop
  · intro e he
    rcases List.mem_append.1 he with he | he
    · obtain ⟨op, hop⟩ := hm.linked he
      exact ⟨op, get?_post_of_fresh hfresh hop⟩
    · refine ⟨p.operation, ?_⟩
      rw [get?_post, if_pos (hp.belongs he)]
  · intro e he
    rcases List.mem_append.1 he with he | he
    · exact hm.placed he
    · exact hplaced e he

/-! ### Edits -/

theorem sameBooks_insertAccount (m : Memory) (a : Account) :
    m.SameBooks (m.edit (.insertAccount a)) := by
  show m.SameBooks (m.changed ((m.insertAccount a).map ((), ·))).2
  rw [insertAccount]
  cases hthere : m.accounts.contains a.id with
  | true => exact .refl m
  | false =>
      refine ⟨rfl, rfl, rfl, fun {e b} _ hb => ?_⟩
      refine (Table.get?_insert_of_ne _ _ ?_).trans hb
      rintro hid
      rw [Table.contains, ← hid, hb] at hthere
      cases hthere

theorem sameBooks_deleteAccount (m : Memory) (id : AccountId) :
    m.SameBooks (m.edit (.deleteAccount id)) := by
  show m.SameBooks (m.changed (m.deleteAccount id)).2
  rw [deleteAccount]
  cases hused : m.usesAccount id with
  | true => exact .refl m
  | false =>
      refine ⟨rfl, rfl, rfl, fun {e b} he hb => ?_⟩
      refine (Table.get?_erase_of_ne _ ?_).trans hb
      rintro hid
      obtain ⟨hentries, -⟩ := Bool.or_eq_false_iff.1 hused
      exact List.any_eq_false.1 hentries e he (beq_iff_eq.2 hid)

/-- An operation that is stored is used by its entries. -/
theorem Consistent.sameBooks_deleteOperation (hm : m.Consistent posts suits)
    (hproper : ∀ {p}, posts p → p.Proper) (id : OperationId) :
    m.SameBooks (m.edit (.deleteOperation id)) := by
  show m.SameBooks (m.changed (m.deleteOperation id)).2
  rw [deleteOperation]
  cases hused : m.usesOperation id with
  | true => exact .refl m
  | false =>
      cases hop : m.operations.get? id with
      | none => exact .refl m
      | some op =>
          obtain ⟨e, he⟩ := List.exists_mem_of_ne_nil _ (hproper (hm.posted hop)).nonempty
          obtain ⟨hmem, hid⟩ := List.mem_filter.1 he
          exact absurd hid (List.any_eq_false.1 hused e hmem)

theorem sameBooks_insertReconciliation (m : Memory) (r : Reconciliation) :
    m.SameBooks (m.answer (.insertReconciliation r)).2 := by
  rcases m.answer_insertReconciliation r with ⟨-, -, hkept⟩ | ⟨-, cause, hrefused⟩
  · rw [hkept]
    exact ⟨rfl, rfl, rfl, fun _ h => h⟩
  · rw [hrefused]
    exact .refl m

/-- **An edit leaves consistent books as they are.** -/
theorem Consistent.edit (hm : m.Consistent posts suits) (hproper : ∀ {p}, posts p → p.Proper)
    (e : Edit) : m.SameBooks (m.edit e) := by
  cases e with
  | insertAccount a => exact sameBooks_insertAccount m a
  | deleteAccount id => exact sameBooks_deleteAccount m id
  | deleteOperation id => exact hm.sameBooks_deleteOperation hproper id
  | insertReconciliation r => exact sameBooks_insertReconciliation m r

end Memory
end Daybook
