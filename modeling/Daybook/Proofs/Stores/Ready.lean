import Daybook.Proofs.Stores.Tables

/-!
Stores that are ready for what is to come: they are sound, and the stamps that requests bring along are
new to them. A request takes its own stamps from the list and leaves a store that is ready for the
rest, whether it writes an account, a posting or a record, or deletes something.
-/

namespace Daybook

namespace Memory

/-- The store is sound, and the stamps ahead are apart from one another and from all that is stored. -/
structure Ready (m : Memory) (ahead : List Stamp) : Prop where
  sound : m.Sound
  apart : ahead.Pairwise Stamp.Apart
  operations : ∀ stamp ∈ ahead, m.operations.contains ⟨stamp.id⟩ = false
  entries : ∀ stamp ∈ ahead, ∀ e ∈ m.entries, e.stamp.Apart stamp
  records : ∀ stamp ∈ ahead, ∀ r ∈ m.reconciliations, r.stamp.Apart stamp

variable {m : Memory} {ahead used : List Stamp}

theorem Ready.empty (h : ahead.Pairwise Stamp.Apart) : Ready .empty ahead :=
  ⟨.empty, h, fun _ _ => rfl, fun _ _ _ he => absurd he List.not_mem_nil,
    fun _ _ _ hr => absurd hr List.not_mem_nil⟩

/-- Stamps need not be used. -/
theorem Ready.skip (h : m.Ready (used ++ ahead)) : m.Ready ahead where
  sound := h.sound
  apart := (List.pairwise_append.1 h.apart).2.1
  operations stamp hstamp := h.operations stamp (List.mem_append_right _ hstamp)
  entries stamp hstamp := h.entries stamp (List.mem_append_right _ hstamp)
  records stamp hstamp := h.records stamp (List.mem_append_right _ hstamp)

/-! ### Accounts and operations -/

theorem Ready.insertAccount (h : m.Ready ahead) {a : Account} (hfree : m.accounts.contains a.id = false) :
    Ready { m with accounts := m.accounts.insert a.id a } ahead where
  sound :=
    { accounts := h.sound.accounts.insert hfree rfl
      operations := h.sound.operations
      indexed := ⟨h.sound.indexed.keyed, h.sound.indexed.owned, h.sound.indexed.owns⟩
      intact := h.sound.intact.effect (.insertAccount hfree)
      entries := h.sound.entries
      records := h.sound.records }
  apart := h.apart
  operations := h.operations
  entries := h.entries
  records := h.records

theorem Ready.deleteAccount (h : m.Ready ahead) {id : AccountId} (hunused : m.usesAccount id = false) :
    Ready { m with accounts := m.accounts.erase id } ahead where
  sound :=
    { accounts := h.sound.accounts.erase id
      operations := h.sound.operations
      indexed := ⟨h.sound.indexed.keyed, h.sound.indexed.owned, h.sound.indexed.owns⟩
      intact := h.sound.intact.effect (.deleteAccount hunused)
      entries := h.sound.entries
      records := h.sound.records }
  apart := h.apart
  operations := h.operations
  entries := h.entries
  records := h.records

theorem Ready.deleteOperation (h : m.Ready ahead) {id : OperationId} {op : Operation}
    (hunused : m.usesOperation id = false) (hop : m.operations.get? id = some op) :
    Ready { m with operations := m.operations.erase id, owners := m.owners.erase op.reference } ahead where
  sound :=
    { accounts := h.sound.accounts
      operations := h.sound.operations.erase id
      indexed := h.sound.indexed.deleteOperation hop
      intact := h.sound.intact.effect (.deleteOperation hunused hop)
      entries := h.sound.entries
      records := h.sound.records }
  apart := h.apart
  operations stamp hstamp := by
    by_contra hthere
    obtain ⟨op', hop'⟩ := Option.isSome_iff_exists.1 (Bool.eq_true_of_not_eq_false hthere)
    have hkept := (Table.get?_of_get?_erase _ hop').2
    have hnew := h.operations stamp hstamp
    rw [Table.contains, hkept] at hnew
    cases hnew
  entries := h.entries
  records := h.records

/-! ### Postings and records -/

section Append

variable {α : Type} {stamp : α → Stamp} {l new : List α}

/-- Members with new stamps can be added. -/
theorem spaced_append (h : Spaced stamp l) (hnew : (new.map stamp).Sublist used)
    (hused : used.Pairwise Stamp.Apart) (hapart : ∀ s ∈ used, ∀ a ∈ l, (stamp a).Apart s) :
    Spaced stamp (l ++ new) := by
  refine List.pairwise_append.2 ⟨h, List.pairwise_map.1 (hused.sublist hnew), ?_⟩
  intro a ha b hb
  exact hapart _ (hnew.subset (List.mem_map_of_mem hb)) a ha

theorem apart_append (hahead : (used ++ ahead).Pairwise Stamp.Apart) (hnew : (new.map stamp).Sublist used)
    (hapart : ∀ s ∈ used ++ ahead, ∀ a ∈ l, (stamp a).Apart s) :
    ∀ s ∈ ahead, ∀ a ∈ l ++ new, (stamp a).Apart s := by
  intro s hs a ha
  rcases List.mem_append.1 ha with ha | ha
  · exact hapart s (List.mem_append_right _ hs) a ha
  · exact (List.pairwise_append.1 hahead).2.2 _ (hnew.subset (List.mem_map_of_mem ha)) s hs

end Append

theorem Ready.post {p : Posting} (h : m.Ready (used ++ ahead)) (hp : p.Proper)
    (hid : ∃ stamp ∈ used, p.operation.id = ⟨stamp.id⟩)
    (hstamps : (p.entries.map Entry.stamp).Sublist used)
    (hfree : m.findByReference p.operation.reference = none)
    (hpresent : ∀ e ∈ p.entries, m.accounts.contains e.account = true) : (m.post p).Ready ahead := by
  obtain ⟨hused, -, hacross⟩ := List.pairwise_append.1 h.apart
  obtain ⟨stamp, hstamp, hid⟩ := hid
  have hnew : m.operations.contains p.operation.id = false :=
    hid ▸ h.operations stamp (List.mem_append_left _ hstamp)
  have hfresh : m.operations.get? p.operation.id = none := by
    rwa [Table.contains_eq_false_iff] at hnew
  have hentries : ∀ e ∈ p.entries, m.checkEntry [p.operation] e = .ok () := by
    intro e he
    rw [checkEntry_eq (hp.belongs he), if_pos (hpresent e he)]
  refine ⟨⟨h.sound.accounts, ?_, ?_, ?_, ?_, h.sound.records⟩, h.skip.apart, ?_, ?_, h.skip.records⟩
  · exact h.sound.operations.insert hnew rfl
  · exact h.sound.indexed.post hfresh hfree
  · exact h.sound.intact.commit (d := p.draft) hentries
  · exact spaced_append h.sound.entries hstamps hused fun s hs =>
      h.entries s (List.mem_append_left _ hs)
  · intro s hs
    have hother : (⟨s.id⟩ : OperationId) ≠ p.operation.id := by
      rw [hid]
      exact fun heq => (hacross stamp hstamp s hs).1 (congrArg Id.uuid heq).symm
    rw [Memory.post, Table.contains_insert, decide_eq_false hother, Bool.false_or]
    exact h.skip.operations s hs
  · exact apart_append h.apart hstamps h.entries

theorem Ready.insertReconciliation {r : Reconciliation} (h : m.Ready ([r.stamp] ++ ahead))
    (hpresent : m.accounts.contains r.account = true) :
    Ready { m with reconciliations := m.reconciliations ++ [r] } ahead where
  sound :=
    { accounts := h.sound.accounts
      operations := h.sound.operations
      indexed := ⟨h.sound.indexed.keyed, h.sound.indexed.owned, h.sound.indexed.owns⟩
      intact := h.sound.intact.effect (.insertReconciliation hpresent fun r' hr' hid =>
        (h.records r.stamp List.mem_cons_self r' hr').1 (congrArg Id.uuid hid))
      entries := h.sound.entries
      records := spaced_append h.sound.records (List.Sublist.refl _) (List.pairwise_singleton _ _)
        fun s hs => h.records s (List.mem_append_left _ hs) }
  apart := h.skip.apart
  operations := h.skip.operations
  entries := h.skip.entries
  records := apart_append h.apart (List.Sublist.refl _) h.records

end Memory
end Daybook
