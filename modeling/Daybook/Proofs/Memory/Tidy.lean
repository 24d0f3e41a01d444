import Daybook.Proofs.Memory.Effect
import Daybook.Proofs.Memory.Index

/-!
Tidy drafts. A commit checks that the reference of each operation of the draft has no other owner in
the store. It looks neither at the other operations of the draft nor at the reference that a stored
operation has had, so the index stays in order only if the draft is tidy: an id goes with one
reference and a reference with one id, in the draft as in the store. All other calls keep the index
in order by themselves (`Indexed.effect`).
-/

namespace Daybook

/-- In the draft an id goes with one reference and a reference with one id, and operations that are
stored keep their references. -/
structure MemoryDraft.Tidy (d : MemoryDraft) (m : Memory) : Prop where
  paired : ∀ {op op'}, op ∈ d.operations → op' ∈ d.operations →
    (op.id = op'.id ↔ op.reference = op'.reference)
  kept : ∀ {op stored}, op ∈ d.operations → m.operations.get? op.id = some stored →
    stored.reference = op.reference

namespace Memory

variable {m m' : Memory} {op op' : Operation}

/-! ### One operation -/

/-- The reference has no other owner, and the id has no other reference. -/
structure Fits (m : Memory) (op : Operation) : Prop where
  owner : ∀ {id}, m.owners.get? op.reference = some id → id = op.id
  stored : ∀ {op'}, m.operations.get? op.id = some op' → op'.reference = op.reference

theorem Indexed.put (hm : m.Indexed) (h : m.Fits op) : (m.put op).Indexed := by
  refine ⟨?_, ?_, ?_⟩
  · intro id op' hop'
    rw [operations_put] at hop'
    split_ifs at hop' with hid
    · cases hop'
      exact hid.symm
    · exact hm.keyed hop'
  · intro r id howner
    rw [owners_put] at howner
    split_ifs at howner with hr
    · cases howner
      exact ⟨op, by rw [operations_put, if_pos rfl], hr.symm⟩
    · obtain ⟨op', hop', hreference⟩ := hm.owned howner
      refine ⟨op', ?_, hreference⟩
      rw [operations_put, if_neg]
      · exact hop'
      · rintro rfl
        exact hr (hreference.symm.trans (h.stored hop'))
  · intro id op' hop'
    rw [operations_put] at hop'
    rw [owners_put]
    split_ifs at hop' with hid
    · cases hop'
      rw [if_pos rfl, hid]
    · rw [if_neg]
      · exact hm.owns hop'
      · intro hr
        exact hid (h.owner (hr ▸ hm.owns hop'))

/-- An operation that fits goes on fitting when a paired one is put before it. -/
theorem Fits.put (h' : m.Fits op') (hpaired : op.id = op'.id ↔ op.reference = op'.reference) :
    (m.put op).Fits op' where
  owner := by
    intro id howner
    rw [owners_put] at howner
    split_ifs at howner with hr
    · cases howner
      exact hpaired.2 hr.symm
    · exact h'.owner howner
  stored := by
    intro op'' hop''
    rw [operations_put] at hop''
    split_ifs at hop'' with hid
    · cases hop''
      exact hpaired.1 hid.symm
    · exact h'.stored hop''

/-! ### A draft -/

theorem Indexed.foldl_put (hm : m.Indexed) {ops : List Operation} (hfits : ∀ op ∈ ops, m.Fits op)
    (hpaired : ∀ {op op'}, op ∈ ops → op' ∈ ops → (op.id = op'.id ↔ op.reference = op'.reference)) :
    (ops.foldl Memory.put m).Indexed := by
  induction ops generalizing m with
  | nil => exact hm
  | cons op ops ih =>
      obtain ⟨hop, hops⟩ := List.forall_mem_cons.1 hfits
      -- Those that are left were checked before this one was put; they are paired with it.
      refine ih (hm.put hop) ?_ ?_
      · intro op' hop'
        exact (hops op' hop').put (hpaired List.mem_cons_self (List.mem_cons_of_mem _ hop'))
      · exact fun h h' => hpaired (List.mem_cons_of_mem _ h) (List.mem_cons_of_mem _ h')

theorem Indexed.apply (hm : m.Indexed) {d : MemoryDraft} (hd : d.Tidy m)
    (hreferences : ∀ op ∈ d.operations, m.checkReference op = .ok ()) : (m.apply d).Indexed := by
  have hputs : (d.operations.foldl Memory.put m).Indexed :=
    hm.foldl_put (fun op hop => ⟨checkReference_eq_ok_iff.1 (hreferences op hop) _, hd.kept hop⟩) hd.paired
  exact ⟨hputs.keyed, hputs.owned, hputs.owns⟩

/-! ### Deleting -/

/-- The reference of a deleted operation is free. -/
theorem Indexed.deleteOperation (hm : m.Indexed) {id : OperationId}
    (hop : m.operations.get? id = some op) :
    Indexed { m with operations := m.operations.erase id, owners := m.owners.erase op.reference } := by
  have hother : ∀ {id' op'}, m.operations.get? id' = some op' → (id' = id ↔ op'.reference = op.reference) := by
    intro id' op' hop'
    constructor
    · rintro rfl
      rw [Option.some.inj (hop'.symm.trans hop)]
    · intro hr
      rw [← hm.keyed hop', ← hm.keyed hop, hm.unique hop' hop hr]
  refine ⟨fun hop' => hm.keyed (Table.get?_of_get?_erase _ hop').2, ?_, ?_⟩
  · intro r id' howner
    obtain ⟨hne, howner⟩ := Table.get?_of_get?_erase _ howner
    obtain ⟨op', hop', rfl⟩ := hm.owned howner
    exact ⟨op', (Table.get?_erase_of_ne _ (mt (hother hop').1 hne)).trans hop', rfl⟩
  · intro id' op' hop'
    obtain ⟨hne, hop'⟩ := Table.get?_of_get?_erase _ hop'
    exact (Table.get?_erase_of_ne _ (mt (hother hop').2 hne)).trans (hm.owns hop')

/-! ### All calls -/

/-- **An index in order stays in order**, provided that a draft is tidy when it is taken. -/
theorem Indexed.effect (hm : m.Indexed) {c : Call MemoryDraft} (h : m.Effect c m')
    (htidy : ∀ d, c = .commit d → (∃ taken, m.commit d = .ok taken) → d.Tidy m) : m'.Indexed := by
  cases h with
  | deleteOperation unused stored => exact hm.deleteOperation stored
  | @commit d taken references entries => exact hm.apply (htidy d rfl ⟨_, taken⟩) references
  | _ => exact ⟨hm.keyed, hm.owned, hm.owns⟩

end Memory
end Daybook
