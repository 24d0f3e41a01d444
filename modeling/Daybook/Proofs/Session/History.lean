import Daybook.Proofs.Memory.Intact
import Daybook.Proofs.Session.Steps

/-!
The history of a session. However drafts and calls are interleaved, entries and records name rows
that are there and keep their places for ever (`Session.history_intact`). An account or an operation
may be deleted between the moment at which a caller looked for it and its commit; the commit then
finds out.
-/

namespace Daybook

namespace Memory

variable {m : Memory}

theorem Intact.operation (hm : m.Intact) {e : Entry} (he : e ∈ m.entries) :
    ∃ op, m.operations.get? e.operation = some op ∧ op.id = e.operation := by
  obtain ⟨op, hop⟩ := Option.isSome_iff_exists.1 (hm.entries he).1
  exact ⟨op, hop, hm.operations hop⟩

theorem Intact.account (hm : m.Intact) {id : AccountId} (h : m.accounts.contains id = true) :
    ∃ a, m.accounts.get? id = some a ∧ a.id = id := by
  obtain ⟨a, ha⟩ := Option.isSome_iff_exists.1 h
  exact ⟨a, ha, hm.accounts ha⟩

end Memory

namespace Session

variable {s : Session Memory MemoryDraft}

theorem intact_follow (hs : s.backend = Memory.backend) (hm : s.store.store.Intact)
    (steps : List Step) : (s.follow steps).store.store.Intact :=
  holds_follow (R := fun m m' => m.Intact → m'.Intact) (fun _ h => h) (fun h h' hm => h' (h hm))
    (fun _ c hm => hm.answer c) hs steps hm

theorem lengthens_follow (hs : s.backend = Memory.backend) (steps : List Step) :
    s.store.store.Lengthens (s.follow steps).store.store :=
  holds_follow Memory.Lengthens.refl Memory.Lengthens.trans Memory.Lengthens.answer hs steps

/-- **Whatever is done to a store in memory, in whatever order,** every entry names an operation and an
account that are stored, every record names an account that is stored, no two records share an id, and
whatever is done next leaves the entries and the records at the head of the new ones. -/
theorem history_intact (settings : Settings) (steps : List Step) :
    let m := ((onMemory settings).follow steps).store.store
    (∀ e ∈ m.entries,
      (∃ op, m.operations.get? e.operation = some op ∧ op.id = e.operation) ∧
        ∃ a, m.accounts.get? e.account = some a ∧ a.id = e.account) ∧
    (∀ r ∈ m.reconciliations, ∃ a, m.accounts.get? r.account = some a ∧ a.id = r.account) ∧
    (m.reconciliations.map (·.id)).Nodup ∧
    ∀ more, let m' := ((onMemory settings).follow (steps ++ more)).store.store
      m.entries <+: m'.entries ∧ m.reconciliations <+: m'.reconciliations := by
  intro m
  have hm : m.Intact := intact_follow rfl .empty steps
  refine ⟨?_, fun r hr => hm.account (hm.records hr), hm.distinct, ?_⟩
  · exact fun e he => ⟨hm.operation he, hm.account (hm.entries he).2⟩
  · intro more m'
    have hlonger : m.Lengthens m' := by
      show m.Lengthens ((onMemory settings).follow (steps ++ more)).store.store
      rw [follow_append]
      exact lengthens_follow (backend_follow _ steps) more
    exact ⟨hlonger.entries, hlonger.reconciliations⟩

end Session
end Daybook
