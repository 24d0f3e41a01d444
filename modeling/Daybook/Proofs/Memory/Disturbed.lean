import Daybook.Store.Memory
import Mathlib.Tactic.Common

/-!
Disturbed stores. In a disturbed store any call may fail, with any error and no effect, and a search
by reference may find nothing although there is an operation. A schedule says what becomes of each
call of a script (`Backend.disturbed`); what holds for every answer that `Memory.Answers` allows,
holds under every schedule.
-/

namespace Daybook

/-- What becomes of a call. -/
inductive Disturbance where
  | none
  | failure (e : StoreError)
  /-- A search by reference finds nothing; other calls go through. -/
  | oversight

/-- The backend behind a schedule, with a disturbance for each call. Calls after its end go
through. -/
def Backend.disturbed {σ Draft : Type} (b : Backend σ Draft) :
    Backend (List Disturbance × σ) Draft where
  act c x :=
    match x.1.head?, c with
    | some (.failure e), _ => (.error e, [], x.1.tail, x.2)
    | some .oversight, .findByReference _ => (.ok Option.none, [], x.1.tail, x.2)
    | _, c =>
      let (reply, events, s) := b.act c x.2
      (reply, events, x.1.tail, s)

/-- All calls of a script, whatever is answered to them. -/
def Script.Calls {Draft α : Type} (P : Call Draft → Prop) : Script Draft α → Prop
  | .done _ => True
  | .emit _ next => next.Calls P
  | .call c next => P c ∧ ∀ r, (next r).Calls P

namespace Memory

/-- How a store in memory answers. In a disturbed store, calls fail with any error and no effect,
and a search by reference finds nothing. -/
inductive Answers (disturbed : Prop) : (c : Call MemoryDraft) → Memory → c.Reply → Memory → Prop
  | heard (c : Call MemoryDraft) (m : Memory) : Answers disturbed c m (m.answer c).1 (m.answer c).2
  | failed (c : Call MemoryDraft) (m : Memory) (e : StoreError) (h : disturbed) :
      Answers disturbed c m (.error e) m
  | missed (r : Reference) (m : Memory) (h : disturbed) :
      Answers disturbed (.findByReference r) m (.ok none) m

theorem Answers.state {disturbed : Prop} {c : Call MemoryDraft} {m m' : Memory} {r : c.Reply}
    (h : Answers disturbed c m r m') : m' = m ∨ m' = (m.answer c).2 := by
  cases h with
  | heard => exact Or.inr rfl
  | failed _ _ e h => exact Or.inl rfl
  | missed _ _ h => exact Or.inl rfl

theorem answers_disturbed (c : Call MemoryDraft) (x : List Disturbance × Memory) :
    Answers True c x.2 (backend.disturbed.act c x).1 (backend.disturbed.act c x).2.2.2 := by
  obtain ⟨schedule, m⟩ := x
  cases schedule with
  | nil => exact .heard c m
  | cons d schedule =>
      cases d with
      | none => exact .heard c m
      | failure e => exact .failed c m e trivial
      | oversight =>
          cases c with
          | findByReference r => exact .missed r m trivial
          | _ => exact .heard _ m

end Memory

/-- Under any schedule a script changes the store only as its calls do. -/
theorem Script.Calls.keeps {α : Type} {P : Call MemoryDraft → Prop} {R : Memory → Memory → Prop}
    (hrefl : ∀ m, R m m) (htrans : ∀ {m m' m''}, R m m' → R m' m'' → R m m'')
    (hcall : ∀ {c} m, P c → R m (m.answer c).2) {script : Script MemoryDraft α}
    (h : script.Calls P) (x : List Disturbance × Memory) :
    R x.2 (script.run Memory.backend.disturbed x).state.2 := by
  induction script generalizing x with
  | done a => exact hrefl _
  | emit e next ih => exact ih h x
  | call c next ih =>
      obtain ⟨hc, hnext⟩ := h
      show R x.2 ((next _).run Memory.backend.disturbed (Memory.backend.disturbed.act c x).2.2).state.2
      refine htrans ?_ (ih _ (hnext _) _)
      rcases (Memory.answers_disturbed c x).state with hsame | hchanged
      · rw [hsame]
        exact hrefl _
      · rw [hchanged]
        exact hcall _ hc

/-- Under a schedule with nothing on it a script runs as it does without. -/
theorem Script.run_undisturbed {σ Draft α : Type} (b : Backend σ Draft) (script : Script Draft α)
    (s : σ) :
    (script.run b.disturbed ([], s)).result = (script.run b s).result ∧
      (script.run b.disturbed ([], s)).state = ([], (script.run b s).state) := by
  induction script generalizing s with
  | done a => exact ⟨rfl, rfl⟩
  | emit e next ih => exact ih s
  | call c next ih => exact ih _ (b.act c s).2.2

end Daybook
