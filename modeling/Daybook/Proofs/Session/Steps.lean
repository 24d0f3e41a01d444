import Daybook.Proofs.Memory.Disturbed
import Daybook.Store.Session

/-!
Sessions on a store in memory, step by step. Users who share a store, each with any number of open
drafts, do together what one session does that keeps all their drafts under different names: it makes
calls, opens, writes and drops drafts in any order, and some of its calls are made to fail. What a
step does to the store is what one call does, or nothing (`Session.store_take`), so whatever each call
keeps is true at the end of every run of steps (`Session.holds_follow`).
-/

namespace Daybook

/-- The draft that a call writes to. -/
def Call.draft? {Draft : Type} : Call Draft → Option Draft
  | .insertOperation d _ => some d
  | .insertEntries d _ => some d
  | .updateOperation d _ => some d
  | .commit d => some d
  | _ => none

/-- What can be done with a draft. -/
inductive Write where
  | insertOperation (operation : Operation)
  | insertEntries (entries : List Entry)
  | updateOperation (operation : Operation)
  | commit

namespace Write

variable {Draft : Type}

def call (w : Write) (d : Draft) : Call Draft :=
  match w with
  | .insertOperation op => .insertOperation d op
  | .insertEntries es => .insertEntries d es
  | .updateOperation op => .updateOperation d op
  | .commit => .commit d

/-- The script of the one call. -/
def script (w : Write) (d : Draft) : Script Draft (Except StoreError Draft) :=
  match w with
  | .insertOperation op => Script.ask (.insertOperation d op)
  | .insertEntries es => Script.ask (.insertEntries d es)
  | .updateOperation op => Script.ask (.updateOperation d op)
  | .commit => Script.ask (.commit d)

end Write

/-- With faults in front of it, a store in memory answers as a disturbed one. -/
theorem Memory.answers_withFaults (c : Call MemoryDraft) (x : Faulty Memory) :
    Answers True c x.store (backend.withFaults.act c x).1 (backend.withFaults.act c x).2.2.store := by
  simp only [Backend.withFaults]
  rcases Fault.pass c x.faults with ⟨_ | _, fs⟩
  · exact .failed c x.store _ trivial
  · cases c with
    | findByReference r =>
        simp only [Fault.hide]
        cases (Fault.strike .hideReference fs).1 with
        | true => exact .missed r x.store trivial
        | false => exact .heard _ x.store
    | _ => exact .heard _ x.store

namespace Session

/-- A step of a session. -/
inductive Step where
  /-- A call that writes to no draft. -/
  | ask (c : Call MemoryDraft) (plain : c.draft? = none)
  | openDraft (name : String)
  | write (name : String) (w : Write)
  | dropDraft (name : String)
  | arm (f : Fault)

/-- A session on a store in memory with nothing in it. -/
def onMemory (settings : Settings) : Session Memory MemoryDraft :=
  start Memory.backend .empty settings

variable {s : Session Memory MemoryDraft}

/-- The session after a step. Without a draft of that name nothing is written. -/
def take (s : Session Memory MemoryDraft) : Step → Session Memory MemoryDraft
  | .ask c _ => (s.ask c).state
  | .openDraft name => (s.openDraft name).state
  | .write name w => ((s.write? name w.script).map (·.state)).getD s
  | .dropDraft name => s.dropDraft name
  | .arm f => s.arm f

def follow (s : Session Memory MemoryDraft) (steps : List Step) : Session Memory MemoryDraft :=
  steps.foldl take s

/-- The call that a step makes. -/
def call? (s : Session Memory MemoryDraft) : Step → Option (Call MemoryDraft)
  | .ask c _ => some c
  | .openDraft _ => some .begin
  | .write name w => (s.drafts.lookup name).map w.call
  | .dropDraft _ => none
  | .arm _ => none

theorem follow_append (s : Session Memory MemoryDraft) (steps more : List Step) :
    s.follow (steps ++ more) = (s.follow steps).follow more :=
  List.foldl_append

/-! ### The store -/

theorem askDraft_state (name : String) (script : Script MemoryDraft (Except StoreError MemoryDraft)) :
    (s.askDraft name script).state.store = (s.run script).state.store ∧
      (s.askDraft name script).state.backend = s.backend := by
  rw [askDraft]
  split
  · exact ⟨rfl, rfl⟩
  · exact ⟨rfl, rfl⟩

/-- Writing to a draft is making the call. -/
theorem run_script (w : Write) (d : MemoryDraft) :
    (s.run (w.script d)).state = (s.ask (w.call d)).state := by
  cases w with
  | _ => rfl

theorem backend_take (s : Session Memory MemoryDraft) (step : Step) :
    (s.take step).backend = s.backend := by
  cases step with
  | openDraft name => exact (askDraft_state name _).2
  | write name w =>
      rw [take, write?]
      cases s.drafts.lookup name with
      | none => rfl
      | some d => exact (askDraft_state name _).2
  | _ => rfl

theorem backend_follow (s : Session Memory MemoryDraft) (steps : List Step) :
    (s.follow steps).backend = s.backend := by
  induction steps generalizing s with
  | nil => rfl
  | cons step steps ih => exact (ih (s.take step)).trans (s.backend_take step)

/-- A call changes the store as it does without faults, or not at all. -/
theorem store_ask (hs : s.backend = Memory.backend) (c : Call MemoryDraft) :
    (s.ask c).state.store.store = s.store.store ∨
      (s.ask c).state.store.store = (s.store.store.answer c).2 := by
  have hstore : (s.ask c).state.store = (Memory.backend.withFaults.act c s.store).2.2 := by
    rw [← hs]
    rfl
  rw [hstore]
  exact (Memory.answers_withFaults c s.store).state

/-- **A step does to the store what its call does, or nothing.** -/
theorem store_take (hs : s.backend = Memory.backend) (step : Step) :
    (s.take step).store.store = s.store.store ∨
      ∃ c, s.call? step = some c ∧ (s.take step).store.store = (s.store.store.answer c).2 := by
  cases step with
  | ask c plain => exact (store_ask hs c).imp_right fun h => ⟨c, rfl, h⟩
  | openDraft name =>
      have hstate : (s.take (.openDraft name)).store = (s.ask .begin).state.store :=
        (askDraft_state name _).1
      rw [hstate]
      exact (store_ask hs .begin).imp_right fun h => ⟨.begin, rfl, h⟩
  | write name w =>
      cases hname : s.drafts.lookup name with
      | none =>
          refine Or.inl ?_
          rw [take, write?, hname]
          rfl
      | some d =>
          have hcall : s.call? (.write name w) = some (w.call d) := by
            rw [call?, hname]
            rfl
          have hstate : (s.take (.write name w)).store = (s.ask (w.call d)).state.store := by
            rw [take, write?, hname, ← run_script]
            exact (askDraft_state name _).1
          rw [hstate]
          exact (store_ask hs (w.call d)).imp_right fun h => ⟨w.call d, hcall, h⟩
  | dropDraft name => exact Or.inl rfl
  | arm f => exact Or.inl rfl

/-! ### Runs -/

/-- **What every call keeps is kept by every run of steps.** -/
theorem holds_follow {R : Memory → Memory → Prop} (hrefl : ∀ m, R m m)
    (htrans : ∀ {m m' m''}, R m m' → R m' m'' → R m m'') (hcall : ∀ m c, R m (m.answer c).2)
    (hs : s.backend = Memory.backend) (steps : List Step) :
    R s.store.store (s.follow steps).store.store := by
  induction steps generalizing s with
  | nil => exact hrefl _
  | cons step steps ih =>
      refine htrans ?_ (ih ((s.backend_take step).trans hs))
      rcases store_take hs step with hsame | ⟨c, -, hchanged⟩
      · rw [hsame]
        exact hrefl _
      · rw [hchanged]
        exact hcall _ c

end Session
end Daybook
