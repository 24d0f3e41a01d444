import Daybook.Proofs.Script.Atomic
import Mathlib.Data.List.Induction
import Mathlib.Data.List.Nodup

/-!
Scripts that take turns on one store. A pool holds what is left of each script; a move starts a
script, lets one go a step further, or changes the store from outside, and a run is any list of
moves. When every script is atomic towards the others, a run is explained by deeds that are done one
after the other: each script that has returned did its one step at some point between its start and
its end, and what it returned is the result of that step (`Pool.exists_explanation`).
-/

namespace Daybook

/-- One step of a script. A script that is done stays as it is. -/
def Script.step {σ Draft α : Type} (b : Backend σ Draft) : Script Draft α → σ → Script Draft α × σ
  | .done a, s => (.done a, s)
  | .emit _ next, s => (next, s)
  | .call c next, s => (next (b.act c s).1, (b.act c s).2.2)

/-- A move in a run of scripts, the scripts being named by `ι` and what is done from outside by
`ε`. -/
inductive Move (ι ε : Type) where
  | start (i : ι)
  | advance (i : ι)
  | outside (e : ε)

/-- Two scripts are started and take turns, a step each. -/
def Move.alternating {ε : Type} (turns : Nat) : List (Move Bool ε) :=
  .start false :: .start true ::
    (List.replicate turns [.advance false, .advance true]).flatten

structure Pool (ι σ Draft α : Type) where
  store : σ
  started : ι → Bool
  /-- What is left of each script. -/
  rest : ι → Script Draft α

namespace Pool

variable {ι ε σ Draft α : Type} [DecidableEq ι]

/-- All scripts before any of them is started. -/
def fresh (scripts : ι → Script Draft α) (s : σ) : Pool ι σ Draft α :=
  ⟨s, fun _ => false, scripts⟩

def Returned (p : Pool ι σ Draft α) (i : ι) (a : α) : Prop :=
  p.started i = true ∧ p.rest i = .done a

/-- Puts script `i` into another place and the store into another state. -/
def put (p : Pool ι σ Draft α) (i : ι) (place : Script Draft α × σ) : Pool ι σ Draft α :=
  ⟨place.2, Function.update p.started i true, Function.update p.rest i place.1⟩

/-- A script that is not started takes no step. -/
def move (b : Backend σ Draft) (change : ε → σ → σ) (p : Pool ι σ Draft α) :
    Move ι ε → Pool ι σ Draft α
  | .start i => p.put i (p.rest i, p.store)
  | .advance i => if p.started i then p.put i ((p.rest i).step b p.store) else p
  | .outside e => { p with store := change e p.store }

def run (b : Backend σ Draft) (change : ε → σ → σ) (p : Pool ι σ Draft α)
    (moves : List (Move ι ε)) : Pool ι σ Draft α :=
  moves.foldl (move b change) p

/-- Script `i` returned before script `j` was started. -/
def Precedes (b : Backend σ Draft) (change : ε → σ → σ) (p : Pool ι σ Draft α)
    (moves : List (Move ι ε)) (i j : ι) : Prop :=
  ∃ earlier, earlier <+: moves ∧ (∃ a, (p.run b change earlier).Returned i a) ∧
    (p.run b change earlier).started j = false

@[simp]
theorem put_store (p : Pool ι σ Draft α) (i : ι) (place : Script Draft α × σ) :
    (p.put i place).store = place.2 :=
  rfl

@[simp]
theorem put_started (p : Pool ι σ Draft α) (i j : ι) (place : Script Draft α × σ) :
    (p.put i place).started j = (decide (j = i) || p.started j) := by
  by_cases hj : j = i <;> simp [put, hj]

@[simp]
theorem put_rest_self (p : Pool ι σ Draft α) (i : ι) (place : Script Draft α × σ) :
    (p.put i place).rest i = place.1 :=
  Function.update_self ..

@[simp]
theorem put_rest_of_ne (p : Pool ι σ Draft α) {i j : ι} (h : j ≠ i)
    (place : Script Draft α × σ) : (p.put i place).rest j = p.rest j :=
  Function.update_of_ne h ..

variable {b : Backend σ Draft} {change : ε → σ → σ}

theorem run_append (p : Pool ι σ Draft α) (moves more : List (Move ι ε)) :
    p.run b change (moves ++ more) = (p.run b change moves).run b change more :=
  List.foldl_append

theorem run_concat (p : Pool ι σ Draft α) (moves : List (Move ι ε)) (m : Move ι ε) :
    p.run b change (moves ++ [m]) = (p.run b change moves).move b change m :=
  List.foldl_concat ..

/-- What is returned is returned for good. -/
theorem Returned.move {p : Pool ι σ Draft α} {i : ι} {a : α} (h : p.Returned i a) (m : Move ι ε) :
    (p.move b change m).Returned i a := by
  obtain ⟨hstarted, hrest⟩ := h
  cases m with
  | start j =>
      by_cases hj : i = j
      · subst hj
        exact ⟨by simp [Pool.move], by simp [Pool.move, hrest]⟩
      · exact ⟨by simp [Pool.move, hstarted], by simp [Pool.move, hj, hrest]⟩
  | advance j =>
      rw [Pool.move]
      split_ifs
      · by_cases hj : i = j
        · subst hj
          exact ⟨by simp, by simp [hrest, Script.step]⟩
        · exact ⟨by simp [hstarted], by simp [hj, hrest]⟩
      · exact ⟨hstarted, hrest⟩
  | outside e => exact ⟨hstarted, hrest⟩

theorem Returned.run {p : Pool ι σ Draft α} {i : ι} {a : α} (h : p.Returned i a)
    (moves : List (Move ι ε)) : (p.run b change moves).Returned i a := by
  induction moves generalizing p with
  | nil => exact h
  | cons m moves ih => exact ih (h.move m)

theorem Returned.of_earlier {p : Pool ι σ Draft α} {earlier moves : List (Move ι ε)} {i : ι} {a : α}
    (h : (p.run b change earlier).Returned i a) (hearlier : earlier <+: moves) :
    (p.run b change moves).Returned i a := by
  obtain ⟨more, rfl⟩ := hearlier
  rw [run_append]
  exact h.run more

end Pool

/-! ### Deeds -/

/-- What happens at one moment: a script does its one step with a result, or the store is changed
from outside. -/
inductive Deed (ι ε α : Type) where
  | acted (i : ι) (a : α)
  | outside (e : ε)

namespace Deed

variable {ι ε σ α : Type}

def actor? : Deed ι ε α → Option ι
  | .acted i _ => some i
  | .outside _ => none

/-- The scripts that have acted, in the order in which they did. -/
def actors (deeds : List (Deed ι ε α)) : List ι :=
  deeds.filterMap actor?

/-- The result of the step that script `i` did, if it did one. -/
def decision [DecidableEq ι] (i : ι) : List (Deed ι ε α) → Option α
  | [] => none
  | .acted j a :: deeds => if j = i then some a else decision i deeds
  | .outside _ :: deeds => decision i deeds

/-- The deeds, done one after the other, bring the store from one state to another. -/
inductive Chain (act : ι → σ → α → σ → Prop) (change : ε → σ → σ) (s : σ) :
    List (Deed ι ε α) → σ → Prop
  | nil : Chain act change s [] s
  | acted {deeds t i a u} (earlier : Chain act change s deeds t) (step : act i t a u) :
      Chain act change s (deeds ++ [.acted i a]) u
  | outside {deeds t} (e : ε) (earlier : Chain act change s deeds t) :
      Chain act change s (deeds ++ [.outside e]) (change e t)

theorem actors_append (deeds more : List (Deed ι ε α)) :
    actors (deeds ++ more) = actors deeds ++ actors more :=
  List.filterMap_append

section Decision

variable [DecidableEq ι]

theorem decision_append (i : ι) (deeds more : List (Deed ι ε α)) :
    decision i (deeds ++ more) = (decision i deeds).or (decision i more) := by
  induction deeds with
  | nil => rfl
  | cons d deeds ih =>
      cases d with
      | acted j a =>
          by_cases hj : j = i
          · simp [decision, hj]
          · simpa [decision, hj] using ih
      | outside e => simpa [decision] using ih

theorem mem_of_decision {i : ι} {a : α} {deeds : List (Deed ι ε α)}
    (h : decision i deeds = some a) : .acted i a ∈ deeds := by
  induction deeds with
  | nil => cases h
  | cons d deeds ih =>
      cases d with
      | acted j b =>
          rw [decision] at h
          split_ifs at h with hj
          · cases h
            subst hj
            exact List.mem_cons_self
          · exact List.mem_cons_of_mem _ (ih h)
      | outside e => exact List.mem_cons_of_mem _ (ih h)

theorem decision_eq_none_iff {i : ι} {deeds : List (Deed ι ε α)} :
    decision i deeds = none ↔ i ∉ actors deeds := by
  induction deeds with
  | nil => simp [decision, actors]
  | cons d deeds ih =>
      cases d with
      | acted j b =>
          by_cases hj : j = i
          · simp [decision, actors, actor?, hj]
          · simpa [decision, actors, actor?, hj, Ne.symm hj] using ih
      | outside e => simpa [decision, actors, actor?] using ih

end Decision

end Deed

namespace Pool

variable {ι ε σ Draft α : Type} [DecidableEq ι]

/-- Scripts that get along: what one of them does in its step, and what is done from outside, keeps
the store sound and is within what the other scripts allow. -/
structure GetAlong (change : ε → σ → σ) (sound : σ → Prop) (allows : ι → σ → σ → Prop)
    (act : ι → σ → α → σ → Prop) : Prop where
  refl : ∀ i s, allows i s s
  trans : ∀ i {s t u}, allows i s t → allows i t u → allows i s u
  acted : ∀ {i s a t}, sound s → act i s a t → sound t ∧ ∀ j, j ≠ i → allows j s t
  outside : ∀ {s} e, sound s → sound (change e s) ∧ ∀ j, allows j s (change e s)

/-- The deeds account for a pool that began with the store `s`. -/
structure Explains (act : ι → σ → α → σ → Prop) (change : ε → σ → σ) (s : σ)
    (deeds : List (Deed ι ε α)) (p : Pool ι σ Draft α) : Prop where
  chain : Deed.Chain act change s deeds p.store
  /-- No script acts twice. -/
  nodup : (Deed.actors deeds).Nodup
  started : ∀ {i}, i ∈ Deed.actors deeds → p.started i = true
  returned : ∀ {i a}, p.Returned i a → .acted i a ∈ deeds

/-- The surroundings of script `i`. -/
def around (b : Backend σ Draft) (sound : σ → Prop) (allows : ι → σ → σ → Prop) (i : ι) :
    Surroundings σ Draft :=
  ⟨b.Answers, sound, allows i⟩

variable {b : Backend σ Draft} {change : ε → σ → σ} {sound : σ → Prop}
  {allows : ι → σ → σ → Prop} {act : ι → σ → α → σ → Prop} {s : σ}

/-- What every move keeps: the deeds account for the pool, the store is sound, and every script is
atomic from where it is, with the decision that the deeds say it has taken. -/
structure Coherent (b : Backend σ Draft) (change : ε → σ → σ) (sound : σ → Prop)
    (allows : ι → σ → σ → Prop) (act : ι → σ → α → σ → Prop) (s : σ)
    (deeds : List (Deed ι ε α)) (p : Pool ι σ Draft α) : Prop where
  chain : Deed.Chain act change s deeds p.store
  nodup : (Deed.actors deeds).Nodup
  started : ∀ {i}, i ∈ Deed.actors deeds → p.started i = true
  decided : ∀ {i a}, p.Returned i a → Deed.decision i deeds = some a
  safe : sound p.store
  atomic : ∀ i, (p.rest i).Atomic (around b sound allows i) (act i) (Deed.decision i deeds) p.store

theorem Coherent.explains {deeds : List (Deed ι ε α)} {p : Pool ι σ Draft α}
    (h : Coherent b change sound allows act s deeds p) : Explains act change s deeds p :=
  ⟨h.chain, h.nodup, h.started, fun hr => Deed.mem_of_decision (h.decided hr)⟩

/-- A script is put into another place without any deed. -/
theorem Coherent.put_idle {deeds : List (Deed ι ε α)} {p : Pool ι σ Draft α}
    (h : Coherent b change sound allows act s deeds p) {i : ι} {script : Script Draft α}
    (hatomic : script.Atomic (around b sound allows i) (act i) (Deed.decision i deeds) p.store)
    (hdone : ∀ a, script = .done a → Deed.decision i deeds = some a) :
    Coherent b change sound allows act s deeds (p.put i (script, p.store)) where
  chain := h.chain
  nodup := h.nodup
  started := by
    intro j hj
    rw [put_started, h.started hj, Bool.or_true]
  decided := by
    rintro j a ⟨hstarted, hrest⟩
    by_cases hji : j = i
    · subst hji
      exact hdone a (by simpa using hrest)
    · exact h.decided ⟨by simpa [hji] using hstarted, by simpa [hji] using hrest⟩
  safe := h.safe
  atomic := by
    intro j
    by_cases hji : j = i
    · subst hji
      simpa using hatomic
    · simpa [hji] using h.atomic j

/-- A script does its one step. -/
theorem Coherent.put_acted (along : GetAlong change sound allows act)
    {deeds : List (Deed ι ε α)} {p : Pool ι σ Draft α}
    (h : Coherent b change sound allows act s deeds p) {i : ι} {script : Script Draft α} {a : α}
    {t : σ} (hundecided : Deed.decision i deeds = none) (hact : act i p.store a t)
    (hatomic : script.Atomic (around b sound allows i) (act i) (some a) t) :
    Coherent b change sound allows act s (deeds ++ [.acted i a]) (p.put i (script, t)) := by
  obtain ⟨hsound, hothers⟩ := along.acted h.safe hact
  have hself : Deed.decision i (deeds ++ [.acted i a]) = some a := by
    simp [Deed.decision_append, hundecided, Deed.decision]
  have hother : ∀ {j}, j ≠ i → Deed.decision j (deeds ++ [.acted i a]) = Deed.decision j deeds := by
    intro j hji
    simp [Deed.decision_append, Deed.decision, Ne.symm hji]
  refine ⟨h.chain.acted hact, ?_, ?_, ?_, hsound, ?_⟩
  · rw [Deed.actors_append]
    refine h.nodup.append (by simp [Deed.actors, Deed.actor?]) ?_
    simpa [Deed.actors, Deed.actor?] using Deed.decision_eq_none_iff.1 hundecided
  · intro j hj
    by_cases hji : j = i
    · simp [hji]
    · have hearlier : j ∈ Deed.actors deeds := by
        simpa [Deed.actors_append, Deed.actors, Deed.actor?, hji] using hj
      rw [put_started, h.started hearlier, Bool.or_true]
  · rintro j c ⟨hstarted, hrest⟩
    by_cases hji : j = i
    · subst hji
      have hscript : script = .done c := by simpa using hrest
      rw [hscript] at hatomic
      rw [hself, show c = a from hatomic]
    · rw [hother hji]
      exact h.decided ⟨by simpa [hji] using hstarted, by simpa [hji] using hrest⟩
  · intro j
    by_cases hji : j = i
    · subst hji
      rw [hself]
      simpa using hatomic
    · rw [hother hji]
      have hj := (h.atomic j).allow (along.trans j) (hothers j hji)
      simpa [hji] using hj

/-- A script whose end is reached with nothing decided does its step there. -/
theorem Coherent.put (along : GetAlong change sound allows act) {deeds : List (Deed ι ε α)}
    {p : Pool ι σ Draft α} (h : Coherent b change sound allows act s deeds p) {i : ι}
    {script : Script Draft α}
    (hatomic : script.Atomic (around b sound allows i) (act i) (Deed.decision i deeds) p.store) :
    ∃ new, Coherent b change sound allows act s (deeds ++ new) (p.put i (script, p.store)) := by
  by_cases hend : ∃ a, script = .done a ∧ Deed.decision i deeds = none
  · obtain ⟨a, rfl, hundecided⟩ := hend
    rw [hundecided] at hatomic
    have hact : act i p.store a p.store := hatomic _ h.safe (along.refl i _)
    exact ⟨[.acted i a], h.put_acted along hundecided hact rfl⟩
  · refine ⟨[], ?_⟩
    rw [List.append_nil]
    refine h.put_idle hatomic fun a ha => ?_
    subst ha
    cases hd : Deed.decision i deeds with
    | none => exact absurd ⟨a, rfl, hd⟩ hend
    | some c =>
        rw [hd] at hatomic
        exact congrArg some (show a = c from hatomic).symm

/-- **Every move keeps the account of the deeds**, which at most grows at its end. -/
theorem Coherent.move (along : GetAlong change sound allows act) {deeds : List (Deed ι ε α)}
    {p : Pool ι σ Draft α} (h : Coherent b change sound allows act s deeds p) (m : Move ι ε) :
    ∃ new, Coherent b change sound allows act s (deeds ++ new) (p.move b change m) := by
  cases m with
  | start i => exact h.put along (h.atomic i)
  | advance i =>
      rw [Pool.move]
      split_ifs with hstarted
      · have hi := h.atomic i
        cases hrest : p.rest i with
        | done a =>
            rw [hrest] at hi
            exact h.put along hi
        | emit e next =>
            rw [hrest] at hi
            exact Coherent.put along h hi
        | call c next =>
            rw [hrest] at hi
            rcases hi _ h.safe (along.refl i _) _ _ ⟨rfl, rfl⟩ with
              ⟨hsame, hnext⟩ | ⟨hundecided, a, hact, hnext⟩
            · rw [Script.step, hsame]
              exact h.put along hnext
            · exact ⟨[.acted i a], h.put_acted along hundecided hact hnext⟩
      · exact ⟨[], by rwa [List.append_nil]⟩
  | outside e =>
      obtain ⟨hsound, hothers⟩ := along.outside e h.safe
      have hsame : ∀ i, Deed.decision i (deeds ++ [.outside e]) = Deed.decision i deeds := by
        intro i
        simp [Deed.decision_append, Deed.decision]
      have hactors : Deed.actors (deeds ++ [.outside e]) = Deed.actors deeds := by
        simp [Deed.actors, Deed.actor?]
      refine ⟨[.outside e], h.chain.outside e, ?_, ?_, ?_, hsound, ?_⟩
      · rw [hactors]
        exact h.nodup
      · rw [hactors]
        exact h.started
      · intro i a hr
        rw [hsame]
        exact h.decided hr
      · intro i
        rw [hsame]
        exact (h.atomic i).allow (along.trans i) (hothers i)

/-- **A run of scripts that get along is explained by deeds done one after the other.** The order of
the deeds is within the run: a script that returned before another one was started acted before
it. -/
theorem exists_explanation (along : GetAlong change sound allows act) (scripts : ι → Script Draft α)
    (hsound : sound s) (hatomic : ∀ i, (scripts i).Atomic (around b sound allows i) (act i) none s)
    (moves : List (Move ι ε)) :
    ∃ deeds, Explains act change s deeds ((fresh scripts s).run b change moves) ∧
      sound ((fresh scripts s).run b change moves).store ∧
      ∀ i j, (fresh scripts s).Precedes b change moves i j → j ∈ Deed.actors deeds →
        [i, j].Sublist (Deed.actors deeds) := by
  suffices h : ∃ deeds, Coherent b change sound allows act s deeds
      ((fresh scripts s).run b change moves) ∧
      ∀ i j, (fresh scripts s).Precedes b change moves i j → j ∈ Deed.actors deeds →
        [i, j].Sublist (Deed.actors deeds) by
    obtain ⟨deeds, hdeeds, horder⟩ := h
    exact ⟨deeds, hdeeds.explains, hdeeds.safe, horder⟩
  induction moves using List.reverseRecOn with
  | nil =>
      refine ⟨[], ⟨.nil, List.nodup_nil, ?_, ?_, hsound, hatomic⟩, ?_⟩
      · intro i hi
        cases hi
      · rintro i a ⟨hstarted, -⟩
        cases hstarted
      · intro i j _ hj
        cases hj
  | append_singleton moves m ih =>
      obtain ⟨deeds, hdeeds, horder⟩ := ih
      obtain ⟨new, hnew⟩ := hdeeds.move along m
      rw [← run_concat] at hnew
      refine ⟨deeds ++ new, hnew, ?_⟩
      rintro i j ⟨earlier, hearlier, ⟨a, hreturned⟩, hunstarted⟩ hj
      rcases List.prefix_concat_iff.1 hearlier with rfl | hearlier
      · -- `j` has acted in the end, so it has been started.
        rw [hnew.started hj] at hunstarted
        cases hunstarted
      · rw [Deed.actors_append] at hj ⊢
        rcases List.mem_append.1 hj with hj | hj
        · exact (horder i j ⟨earlier, hearlier, ⟨a, hreturned⟩, hunstarted⟩ hj).trans
            (List.sublist_append_left ..)
        · have hi : i ∈ Deed.actors deeds := by
            by_contra hi
            have hdecided := hdeeds.decided (hreturned.of_earlier hearlier)
            rw [Deed.decision_eq_none_iff.2 hi] at hdecided
            cases hdecided
          exact (List.singleton_sublist.2 hi).append (List.singleton_sublist.2 hj)

end Pool
end Daybook
