import Daybook.Proofs.Memory.Tidy
import Daybook.Proofs.Session.Steps

/-!
References in a session. If every draft is tidy at the moment at which it is taken, the index leads
from a reference to an id exactly when the operation of that id has that reference
(`Session.references_exact`). A draft need not be tidy: its own operations are compared by reference
when one is inserted, but not by id, and not at all when one takes the place of another or is taken
back from the store. In each of these ways an operation can be lost to its reference
(`Session.references_inexact`).
-/

namespace Daybook

/-- A draft of one new operation is tidy. -/
theorem MemoryDraft.Tidy.single {d : MemoryDraft} {m : Memory} (op : Operation)
    (hd : d.operations = [op]) (hfresh : m.operations.get? op.id = none) : d.Tidy m where
  paired := by
    intro op' op'' h' h''
    rw [hd, List.mem_singleton] at h' h''
    rw [h', h'']
    exact iff_of_true rfl rfl
  kept := by
    intro op' stored h' hstored
    rw [hd, List.mem_singleton] at h'
    rw [h', hfresh] at hstored
    cases hstored

namespace Memory

variable {m m' : Memory}

/-- What a successful deletion takes away. -/
theorem deleteOperation_eq_ok {id : OperationId} (h : m.deleteOperation id = .ok (true, m')) :
    ∃ op, m.operations.get? id = some op ∧ m'.owners = m.owners.erase op.reference := by
  rw [deleteOperation] at h
  split_ifs at h
  cases hop : m.operations.get? id with
  | none =>
      rw [hop] at h
      cases h
  | some op =>
      rw [hop] at h
      cases h
      exact ⟨op, rfl, rfl⟩

/-- A reference without an owner can be taken by any operation. -/
theorem takes_of_free {op : Operation} (hfree : m.owners.get? op.reference = none) :
    m.insertOperation .empty op = .ok ⟨[op], [], false⟩ ∧
      m.commit ⟨[op], [], false⟩ = .ok (⟨[], [], true⟩, m.post ⟨op, []⟩) := by
  have hcheck : m.checkReference op = .ok () := by
    rw [checkReference, hfree]
  constructor
  · rw [insertOperation, hcheck]
    rfl
  · have hcommit := m.commit_draft ⟨op, []⟩
    rw [hcheck] at hcommit
    exact hcommit

end Memory

namespace Session

variable {s : Session Memory MemoryDraft}

/-- Every draft that a step takes is tidy at that moment. -/
def TakesTidy (s : Session Memory MemoryDraft) : List Step → Prop
  | [] => True
  | step :: steps =>
    (∀ d, s.call? step = some (.commit d) → (∃ taken, s.store.store.commit d = .ok taken) →
      d.Tidy s.store.store) ∧
    (s.take step).TakesTidy steps

theorem indexed_follow (hs : s.backend = Memory.backend) (hm : s.store.store.Indexed)
    {steps : List Step} (htidy : s.TakesTidy steps) : (s.follow steps).store.store.Indexed := by
  induction steps generalizing s with
  | nil => exact hm
  | cons step steps ih =>
      obtain ⟨hstep, hrest⟩ := htidy
      refine ih ((s.backend_take step).trans hs) ?_ hrest
      rcases store_take hs step with hsame | ⟨c, hcall, hchanged⟩
      · rw [hsame]
        exact hm
      · rw [hchanged]
        refine hm.effect (Memory.effect_answer _ c) fun d hd htaken => hstep d ?_ htaken
        rw [hcall, hd]

/-- **The index is exact as long as drafts are tidy when they are taken.** No two operations share a
reference, a search finds the operation of that reference and no other, and the reference of a deleted
operation may be used again. -/
theorem references_exact (settings : Settings) (steps : List Step)
    (htidy : (onMemory settings).TakesTidy steps) :
    let m := ((onMemory settings).follow steps).store.store
    (∀ r id, m.owners.get? r = some id ↔ ∃ op, m.operations.get? id = some op ∧ op.reference = r) ∧
    (∀ id id' op op', m.operations.get? id = some op → m.operations.get? id' = some op' →
      op.reference = op'.reference → id = id' ∧ op = op') ∧
    (∀ r op, m.findByReference r = some op ↔
      ∃ id, m.operations.get? id = some op ∧ op.reference = r) ∧
    ∀ id m', m.deleteOperation id = .ok (true, m') →
      ∃ op, m.operations.get? id = some op ∧ m'.findByReference op.reference = none ∧
        ∀ new, new.reference = op.reference →
          m'.insertOperation .empty new = .ok ⟨[new], [], false⟩ ∧
          m'.commit ⟨[new], [], false⟩ = .ok (⟨[], [], true⟩, m'.post ⟨new, []⟩) := by
  intro m
  have hm : m.Indexed := indexed_follow rfl .empty htidy
  refine ⟨hm.owner_iff, ?_, ?_, ?_⟩
  · intro id id' op op' hop hop' hreference
    have hsame := hm.unique hop hop' hreference
    refine ⟨?_, hsame⟩
    calc
      id = op.id := (hm.keyed hop).symm
      _ = op'.id := by rw [hsame]
      _ = id' := hm.keyed hop'
  · intro r op
    rw [hm.find_iff]
    constructor
    · rintro ⟨hop, hreference⟩
      exact ⟨op.id, hop, hreference⟩
    · rintro ⟨id, hop, hreference⟩
      exact ⟨by rwa [hm.keyed hop], hreference⟩
  · intro id m' hdelete
    obtain ⟨op, hop, howners⟩ := Memory.deleteOperation_eq_ok hdelete
    have hfree : m'.owners.get? op.reference = none := by
      rw [howners]
      exact Table.get?_erase_self _ _
    refine ⟨op, hop, ?_, fun new hnew => Memory.takes_of_free (hnew ▸ hfree)⟩
    rw [Memory.findByReference, hfree]
    rfl

/-! ### Three drafts that are not tidy -/

/-- The reference of one letter. -/
def letter (c : Char) (h : Reference.isAllowed c = true) : Reference where
  text := String.ofList [c]
  wellFormed := by
    rw [String.toList_ofList]
    exact ⟨List.cons_ne_nil _ _, Nat.le_add_left 1 254, List.forall_mem_singleton.2 h⟩

def keyA : Reference :=
  letter 'A' rfl

def keyB : Reference :=
  letter 'B' rfl

/-- A deposit in processing. -/
def deposit (id : BitVec 128) (r : Reference) : Operation :=
  .start ⟨⟨id⟩, .ofNanos 0⟩ r .deposit

/-- A draft is opened and a deposit inserted into it. -/
def inserting (name : String) (id : BitVec 128) (r : Reference) : List Step :=
  [.openDraft name, .write name (.insertOperation (deposit id r))]

def deleting (id : BitVec 128) : Step :=
  .ask (.deleteOperation ⟨⟨id⟩⟩) rfl

/-- A reference is used, given up, and used again. -/
def rebooked : List Step :=
  inserting "w" 1 keyA ++ [.write "w" .commit, deleting 1] ++ inserting "v" 2 keyA ++
    [.write "v" .commit]

/-- The second operation is found by the reference of the first. -/
theorem references_exact_rebooked :
    (onMemory .default).TakesTidy rebooked ∧
      ((onMemory .default).follow rebooked).store.store.findByReference keyA =
        some (deposit 2 keyA) := by
  have htidy : (onMemory .default).TakesTidy rebooked := by
    refine ⟨nofun, nofun, ?_, nofun, nofun, nofun, ?_, trivial⟩
    · rintro d ⟨⟩ -
      exact .single (deposit 1 keyA) rfl rfl
    · rintro d ⟨⟩ -
      exact .single (deposit 2 keyA) rfl rfl
  obtain ⟨-, -, hfind, -⟩ := references_exact .default rebooked htidy
  exact ⟨htidy, (hfind keyA (deposit 2 keyA)).2 ⟨⟨⟨2⟩⟩, rfl, rfl⟩⟩

/-- Of two operations in a draft, the first takes the reference of the second, which is then deleted. -/
def reworded : List Step :=
  inserting "w" 1 keyA ++
    [.write "w" (.insertOperation (deposit 2 keyB)), .write "w" (.updateOperation (deposit 1 keyB)),
      .write "w" .commit, deleting 2]

/-- One operation is inserted into a draft twice, with two references. -/
def repeated : List Step :=
  inserting "w" 1 keyA ++ [.write "w" (.insertOperation (deposit 1 keyB)), .write "w" .commit]

/-- A stored operation is taken back into a draft, beside a new one with its reference, and deleted
before and after the commit. -/
def takenBack : List Step :=
  inserting "w" 2 keyA ++ inserting "v" 1 keyA ++
    [.write "v" .commit, .write "w" (.updateOperation (deposit 1 keyA)), deleting 1,
      .write "w" .commit, deleting 1]

/-- **A draft that is not tidy loses a reference.** A search misses an operation that is stored with
the reference, or finds one that is stored with another. -/
theorem references_inexact :
    (let m := ((onMemory .default).follow reworded).store.store;
      m.operations.get? ⟨⟨1⟩⟩ = some (deposit 1 keyB) ∧ m.findByReference keyB = none) ∧
    (let m := ((onMemory .default).follow repeated).store.store;
      m.findByReference keyA = some (deposit 1 keyB) ∧ keyA ≠ keyB) ∧
    let m := ((onMemory .default).follow takenBack).store.store
    m.operations.get? ⟨⟨2⟩⟩ = some (deposit 2 keyA) ∧ m.findByReference keyA = none :=
  ⟨⟨rfl, rfl⟩, ⟨rfl, by decide⟩, rfl, rfl⟩

end Session
end Daybook
