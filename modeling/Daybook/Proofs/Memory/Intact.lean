import Daybook.Proofs.Memory.Effect
import Mathlib.Data.List.Nodup

/-!
Intact stores. Rows stand under their own ids, and what an entry or a record names is there. No call
breaks this, because what is named cannot be deleted and what is taken has been checked at the same
moment (`Intact.answer`). Entries and records only ever get longer (`Lengthens.answer`).
-/

namespace Daybook

namespace Memory

/-- Rows stand under their own ids, what entries and records name is there, and no two records share
an id. -/
structure Intact (m : Memory) : Prop where
  accounts : ∀ {id a}, m.accounts.get? id = some a → a.id = id
  operations : ∀ {id op}, m.operations.get? id = some op → op.id = id
  entries : ∀ {e}, e ∈ m.entries →
    m.operations.contains e.operation = true ∧ m.accounts.contains e.account = true
  records : ∀ {r}, r ∈ m.reconciliations → m.accounts.contains r.account = true
  distinct : (m.reconciliations.map (·.id)).Nodup

/-- Entries and records may have been added at the end, and all else of them is as it was. -/
structure Lengthens (m m' : Memory) : Prop where
  entries : m.entries <+: m'.entries
  reconciliations : m.reconciliations <+: m'.reconciliations

variable {m m' m'' : Memory} {c : Call MemoryDraft} {d : MemoryDraft}

/-! ### What grows -/

theorem Lengthens.refl (m : Memory) : m.Lengthens m :=
  ⟨List.prefix_refl _, List.prefix_refl _⟩

theorem Lengthens.trans (h : m.Lengthens m') (h' : m'.Lengthens m'') : m.Lengthens m'' :=
  ⟨h.entries.trans h'.entries, h.reconciliations.trans h'.reconciliations⟩

theorem Effect.lengthens (h : m.Effect c m') : m.Lengthens m' := by
  cases h with
  | insertReconciliation present unknown => exact ⟨List.prefix_refl _, List.prefix_append _ _⟩
  | commit taken references entries =>
      refine ⟨?_, ?_⟩
      · rw [entries_apply]
        exact List.prefix_append _ _
      · exact (reconciliations_apply m _).symm ▸ List.prefix_refl _
  | _ => exact ⟨List.prefix_refl _, List.prefix_refl _⟩

/-- **No call alters or drops an entry or a record.** -/
theorem Lengthens.answer (m : Memory) (c : Call MemoryDraft) : m.Lengthens (m.answer c).2 :=
  (m.effect_answer c).lengthens

/-! ### What a draft adds -/

theorem contains_foldl_put (m : Memory) (ops : List Operation) {id : OperationId}
    (h : m.operations.contains id = true ∨ ∃ op ∈ ops, op.id = id) :
    (ops.foldl put m).operations.contains id = true := by
  induction ops generalizing m with
  | nil =>
      rcases h with hstored | ⟨op, hop, -⟩
      · exact hstored
      · cases hop
  | cons op ops ih =>
      refine ih (m.put op) ?_
      have hput : (m.put op).operations.contains id = (decide (id = op.id) || m.operations.contains id) :=
        Table.contains_insert ..
      rw [hput, Bool.or_eq_true, decide_eq_true_eq]
      rcases h with hstored | ⟨op', hop', hid⟩
      · exact Or.inl (Or.inr hstored)
      · rcases List.mem_cons.1 hop' with rfl | hop'
        · exact Or.inl (Or.inl hid.symm)
        · exact Or.inr ⟨op', hop', hid⟩

theorem keyed_foldl_put {ops : List Operation}
    (h : ∀ {id op}, m.operations.get? id = some op → op.id = id) {id : OperationId} {op : Operation}
    (hop : (ops.foldl put m).operations.get? id = some op) : op.id = id := by
  induction ops generalizing m with
  | nil => exact h hop
  | cons op' ops ih =>
      refine ih (m := m.put op') ?_ hop
      intro id' op'' hop''
      rw [operations_put] at hop''
      split_ifs at hop'' with hid
      · cases hop''
        exact hid.symm
      · exact h hop''

/-! ### Staying intact -/

theorem Intact.empty : Intact .empty where
  accounts := nofun
  operations := nofun
  entries := nofun
  records := nofun
  distinct := List.nodup_nil

theorem Intact.commit (hm : m.Intact)
    (hentries : ∀ e ∈ d.entries, m.checkEntry d.operations e = .ok ()) : (m.apply d).Intact := by
  refine ⟨?_, fun hop => keyed_foldl_put hm.operations hop, ?_, ?_, ?_⟩
  · rw [accounts_apply]
    exact hm.accounts
  · intro e he
    rw [entries_apply, List.mem_append] at he
    rw [accounts_apply]
    rcases he with he | he
    · obtain ⟨hoperation, haccount⟩ := hm.entries he
      exact ⟨contains_foldl_put m _ (Or.inl hoperation), haccount⟩
    · obtain ⟨hoperation, haccount⟩ := checkEntry_eq_ok_iff.1 (hentries e he)
      exact ⟨contains_foldl_put m _ hoperation, haccount⟩
  · rw [accounts_apply, reconciliations_apply]
    exact hm.records
  · rw [reconciliations_apply]
    exact hm.distinct

/-- An account or an operation that no row names may go. -/
theorem Intact.effect (hm : m.Intact) (h : m.Effect c m') : m'.Intact := by
  cases h with
  | none => exact hm
  | @insertAccount a free =>
      have hkept : ∀ {id}, m.accounts.contains id = true →
          (m.accounts.insert a.id a).contains id = true := by
        intro id hid
        rw [Table.contains_insert, hid, Bool.or_true]
      refine ⟨?_, hm.operations, ?_, fun hr => hkept (hm.records hr), hm.distinct⟩
      · intro id b hb
        rw [Table.get?_insert] at hb
        split_ifs at hb with hid
        · cases hb
          exact hid.symm
        · exact hm.accounts hb
      · exact fun he => ⟨(hm.entries he).1, hkept (hm.entries he).2⟩
  | @deleteAccount id unused =>
      obtain ⟨hentries, hrecords⟩ := Bool.or_eq_false_iff.1 unused
      refine ⟨fun ha => hm.accounts (Table.get?_of_get?_erase _ ha).2, hm.operations, ?_, ?_, hm.distinct⟩
      · intro e he
        have hother : e.account ≠ id := fun hid =>
          List.any_eq_false.1 hentries e he (beq_iff_eq.2 hid)
        exact ⟨(hm.entries he).1, (Table.contains_erase_of_ne _ hother).trans (hm.entries he).2⟩
      · intro r hr
        have hother : r.account ≠ id := fun hid =>
          List.any_eq_false.1 hrecords r hr (beq_iff_eq.2 hid)
        exact (Table.contains_erase_of_ne _ hother).trans (hm.records hr)
  | @deleteOperation id op unused stored =>
      refine ⟨hm.accounts, fun hop => hm.operations (Table.get?_of_get?_erase _ hop).2, ?_, hm.records,
        hm.distinct⟩
      intro e he
      have hother : e.operation ≠ id := fun hid => List.any_eq_false.1 unused e he (beq_iff_eq.2 hid)
      exact ⟨(Table.contains_erase_of_ne _ hother).trans (hm.entries he).1, (hm.entries he).2⟩
  | @insertReconciliation r present unknown =>
      refine ⟨hm.accounts, hm.operations, hm.entries, ?_, ?_⟩
      · intro r' hr'
        rcases List.mem_append.1 hr' with hr' | hr'
        · exact hm.records hr'
        · rw [List.mem_singleton.1 hr']
          exact present
      · rw [List.map_append]
        refine hm.distinct.append (List.nodup_singleton _) ?_
        intro id hid hnew
        obtain ⟨r', hr', rfl⟩ := List.mem_map.1 hid
        exact unknown r' hr' (List.mem_singleton.1 hnew)
  | commit taken references entries => exact hm.commit entries

/-- **An intact store stays intact, whatever call is made.** -/
theorem Intact.answer (hm : m.Intact) (c : Call MemoryDraft) : (m.answer c).2.Intact :=
  hm.effect (m.effect_answer c)

end Memory
end Daybook
