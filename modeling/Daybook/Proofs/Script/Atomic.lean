import Daybook.Store.Script

/-!
Scripts that act on a store in a single step. Between two calls of a script others may have changed
the store, and a store need not answer as its backend does; what a script may count on is a
`Surroundings`. A script is atomic for a relation `act` between the state before, the result and the
state after when one of its calls does what `act` says and all its other calls leave the store as it
is, whatever the surroundings do. A script that ends with nothing done acts at its end, where the
store stays as it is. Main statement: a script that is atomic in quiet surroundings does, from its
beginning to its end, one `act` (`Atomic.run`).
-/

namespace Daybook

/-- What a script finds around it. -/
structure Surroundings (σ Draft : Type) where
  /-- The store may answer the call in a state with a reply, and then be in another state. -/
  Answers : (c : Call Draft) → σ → c.Reply → σ → Prop
  /-- What is true of every state. -/
  Sound : σ → Prop
  /-- Others may bring the store from one state to another. -/
  Allows : σ → σ → Prop

/-- The answers of a backend. -/
def Backend.Answers {σ Draft : Type} (b : Backend σ Draft) (c : Call Draft) (s : σ) (r : c.Reply)
    (t : σ) : Prop :=
  r = (b.act c s).1 ∧ t = (b.act c s).2.2

namespace Script

variable {σ τ Draft α : Type} {w : Surroundings σ Draft} {act : σ → α → σ → Prop}

/-- What is left of a script acts in one step. The decision is the result of that step once it is
done; from then on the store is left alone and the result is fixed. -/
def Atomic (w : Surroundings σ Draft) (act : σ → α → σ → Prop) :
    Script Draft α → Option α → σ → Prop
  | .done a, none, s => ∀ t, w.Sound t → w.Allows s t → act t a t
  | .done a, some b, _ => a = b
  | .emit _ next, decision, s => Atomic w act next decision s
  | .call c next, decision, s => ∀ t, w.Sound t → w.Allows s t → ∀ r t', w.Answers c t r t' →
      (t' = t ∧ Atomic w act (next r) decision t) ∨
      (decision = none ∧ ∃ a, act t a t' ∧ Atomic w act (next r) (some a) t')

/-- Others may go on before the script does. -/
theorem Atomic.allow (htrans : ∀ {s t u}, w.Allows s t → w.Allows t u → w.Allows s u) {s t : σ}
    (hst : w.Allows s t) {script : Script Draft α} {decision : Option α}
    (h : script.Atomic w act decision s) : script.Atomic w act decision t := by
  induction script with
  | done a =>
      cases decision with
      | none => exact fun u hu htu => h u hu (htrans hst htu)
      | some b => exact h
  | emit e next ih => exact ih h
  | call c next ih => exact fun u hu htu => h u hu (htrans hst htu)

/-- A script that is atomic is so in quieter surroundings, too. -/
theorem Atomic.mono {w' : Surroundings σ Draft}
    (hanswers : ∀ {c s r t}, w'.Answers c s r t → w.Answers c s r t)
    (hsound : ∀ {s}, w'.Sound s → w.Sound s) (hallows : ∀ {s t}, w'.Allows s t → w.Allows s t)
    {script : Script Draft α} {decision : Option α} {s : σ} (h : script.Atomic w act decision s) :
    script.Atomic w' act decision s := by
  induction script generalizing decision s with
  | done a =>
      cases decision with
      | none => exact fun t ht hst => h t (hsound ht) (hallows hst)
      | some b => exact h
  | emit e next ih => exact ih h
  | call c next ih =>
      intro t ht hst r t' hr
      rcases h t (hsound ht) (hallows hst) r t' (hanswers hr) with
        ⟨hsame, hnext⟩ | ⟨hundecided, a, hact, hnext⟩
      · exact Or.inl ⟨hsame, ih r hnext⟩
      · exact Or.inr ⟨hundecided, a, hact, ih r hnext⟩

/-- A call whose answer leaves the store as it is, and that decides nothing. -/
theorem Atomic.idle {c : Call Draft} {next : c.Reply → Script Draft α} {decision : Option α} {s : σ}
    (h : ∀ t, w.Sound t → w.Allows s t → ∀ r t', w.Answers c t r t' →
      t' = t ∧ (next r).Atomic w act decision t) :
    (Script.call c next).Atomic w act decision s :=
  fun t ht hst r t' hr => Or.inl (h t ht hst r t' hr)

/-! ### Running alone

The store is seen through `view`, so that the backend may keep more than what the script acts on. -/

section Run

variable (b : Backend τ Draft) (view : τ → σ)
  (hanswers : ∀ c x, w.Answers c (view x) (b.act c x).1 (view (b.act c x).2.2))
  (hrefl : ∀ s, w.Allows s s)

include hanswers hrefl

/-- Once it is decided, a script leaves the store alone and ends with what was decided. -/
theorem Atomic.run_decided {a : α} (script : Script Draft α) (x : τ) (hx : w.Sound (view x))
    (h : script.Atomic w act (some a) (view x)) :
    (script.run b x).result = a ∧ view (script.run b x).state = view x := by
  induction script generalizing x with
  | done b => exact ⟨h, rfl⟩
  | emit e next ih => exact ih x hx h
  | call c next ih =>
      rcases h _ hx (hrefl _) _ _ (hanswers c x) with ⟨hsame, hnext⟩ | ⟨hnone, -⟩
      · obtain ⟨hresult, hstate⟩ := ih _ (b.act c x).2.2 (by rwa [hsame]) (by rwa [hsame])
        exact ⟨hresult, hstate.trans hsame⟩
      · cases hnone

/-- **From its beginning to its end an atomic script does its one step.** -/
theorem Atomic.run (hact : ∀ {s a t}, w.Sound s → act s a t → w.Sound t) (script : Script Draft α)
    (x : τ) (hx : w.Sound (view x)) (h : script.Atomic w act none (view x)) :
    act (view x) (script.run b x).result (view (script.run b x).state) := by
  induction script generalizing x with
  | done a => exact h _ hx (hrefl _)
  | emit e next ih => exact ih x hx h
  | call c next ih =>
      show act (view x) ((next (b.act c x).1).run b (b.act c x).2.2).result
        (view ((next (b.act c x).1).run b (b.act c x).2.2).state)
      rcases h _ hx (hrefl _) _ _ (hanswers c x) with ⟨hsame, hnext⟩ | ⟨-, a, hdone, hnext⟩
      · have hrest := ih _ (b.act c x).2.2 (by rwa [hsame]) (by rwa [hsame])
        rwa [hsame] at hrest
      · obtain ⟨hresult, hstate⟩ :=
          Atomic.run_decided b view hanswers hrefl _ (b.act c x).2.2 (hact hx hdone) hnext
        rw [hresult, hstate]
        exact hdone

end Run

end Script
end Daybook
