import Daybook.Proofs.Booking.Reached
import Daybook.Proofs.Script.Turns

/-!
Submissions that take turns while the accounts are fixed. What they do is what they would do one by
one, each from its beginning to its end, in an order that respects which of them had returned before
which others were started (`race_linearizable`). The place of a submission in that order is where it
acts: at the commit for a new booking, and at a search by reference for a known operation, but also
for an account that is not there, which is looked for only later.
-/

namespace Daybook.Booking

variable {ι : Type} {requests : ι → Submission} {A : Table AccountId Account} {m t : Memory}

/-- The submissions run alone one after the other: what they answer, and the store at the end. -/
def oneByOne (requests : ι → Submission) : List ι → Memory → List (ι × Result) × Memory
  | [], m => ([], m)
  | i :: order, m =>
    let o := (requests i).script.run Memory.backend m
    let rest := oneByOne requests order o.state
    ((i, o.result) :: rest.1, rest.2)

theorem oneByOne_concat (order : List ι) (i : ι) (m : Memory) :
    oneByOne requests (order ++ [i]) m =
      ((oneByOne requests order m).1 ++
          [(i, ((requests i).script.run Memory.backend (oneByOne requests order m).2).result)],
        ((requests i).script.run Memory.backend (oneByOne requests order m).2).state) := by
  induction order generalizing m with
  | nil => rfl
  | cons j order ih =>
      rw [List.cons_append, oneByOne, ih]
      rfl

/-- While the accounts are fixed there are no edits. -/
def noEdit (e : Empty) : Memory → Memory :=
  e.elim

/-- Submissions with different ids get along. -/
theorem getAlong_calm (hids : Function.Injective fun i => (requests i).operationId)
    (A : Table AccountId Account) :
    Pool.GetAlong noEdit (Circumstances.calm A).Sound
      (fun i => Memory.Spares (requests i).operationId) fun i => (requests i).Acts (.calm A) where
  refl _ := .refl _
  trans _ _ _ _ := .trans
  acted hs hact := ⟨hact.sound hs, fun _ hji => hact.spares fun hid => hji (hids hid)⟩
  outside e := e.elim

/-- What the submissions have done one by one: the store is the one they lead to, with the answers
that they gave, and those that have not acted find their ids new. -/
structure Replayed (requests : ι → Submission) (A : Table AccountId Account) (m : Memory)
    (deeds : List (Deed ι Empty Result)) (t : Memory) : Prop where
  sound : (Circumstances.calm A).Sound t
  fresh : ∀ {i}, i ∉ Deed.actors deeds → t.operations.get? (requests i).operationId = none
  store : (oneByOne requests (Deed.actors deeds) m).2 = t
  answered : ∀ {i a}, .acted i a ∈ deeds → (i, a) ∈ (oneByOne requests (Deed.actors deeds) m).1

/-- **A chain of deeds is what the actors do one by one.** -/
theorem replayed_of_chain (hids : Function.Injective fun i => (requests i).operationId)
    (hm : (Circumstances.calm A).Sound m)
    (hfresh : ∀ i, m.operations.get? (requests i).operationId = none)
    {deeds : List (Deed ι Empty Result)}
    (h : Deed.Chain (fun i => (requests i).Acts (.calm A)) noEdit m deeds t)
    (hnodup : (Deed.actors deeds).Nodup) : Replayed requests A m deeds t := by
  induction h with
  | nil => exact ⟨hm, fun {i} _ => hfresh i, rfl, nofun⟩
  | @acted deeds t i a u earlier step ih =>
      have hactors : Deed.actors (deeds ++ [.acted i a]) = Deed.actors deeds ++ [i] := by
        rw [Deed.actors_append]
        rfl
      rw [hactors] at hnodup
      obtain ⟨hearlier, -, hdisjoint⟩ := List.nodup_append.1 hnodup
      have hi : i ∉ Deed.actors deeds := fun hi => hdisjoint i hi i List.mem_cons_self rfl
      obtain ⟨hsound, hnew, hstore, hanswered⟩ := ih hearlier
      -- Running alone from the same state leaves the submission no choice either.
      have halone : ((requests i).script.run Memory.backend t).result = a ∧
          ((requests i).script.run Memory.backend t).state = u := by
        have hverdict := (requests i).run_eq_verdict hsound.indexed (hnew hi)
        rw [hsound.accounts rfl, ← step.eq_verdict rfl id] at hverdict
        exact Prod.mk.inj hverdict
      have hreplay : oneByOne requests (Deed.actors deeds ++ [i]) m =
          ((oneByOne requests (Deed.actors deeds) m).1 ++ [(i, a)], u) := by
        rw [oneByOne_concat, hstore, halone.1, halone.2]
      refine ⟨step.sound hsound, ?_, ?_, ?_⟩
      · intro j hj
        rw [hactors, List.mem_append, not_or, List.mem_singleton] at hj
        exact (step.spares fun hid => hj.2 (hids hid)).fresh (hnew hj.1)
      · rw [hactors, hreplay]
      · intro j c hmem
        rw [hactors, hreplay]
        rcases List.mem_append.1 hmem with hmem | hmem
        · exact List.mem_append_left _ (hanswered hmem)
        · cases List.mem_singleton.1 hmem
          exact List.mem_append_right _ List.mem_cons_self
  | outside e => exact e.elim

section Race

variable [DecidableEq ι]

/-- The submissions after some moves, from a given store. -/
def raceFrom (m : Memory) (requests : ι → Submission) (moves : List (Move ι Empty)) :
    Pool ι Memory MemoryDraft Result :=
  (Pool.fresh (fun i => (requests i).script) m).run Memory.backend noEdit moves

/-- **Submissions that take turns can be put in a line.** The order has all that have returned, and
no others than have been started; one by one in that order they answer the same and lead to the same
store. -/
theorem race_linearizable {m : Memory} (hm : m.Reached fun _ => True) (requests : ι → Submission)
    (hids : Function.Injective fun i => (requests i).operationId)
    (hfresh : ∀ i, m.operations.get? (requests i).operationId = none)
    (moves : List (Move ι Empty)) :
    ∃ order : List ι, order.Nodup ∧ (∀ i ∈ order, (raceFrom m requests moves).started i = true) ∧
      (∀ i a, (raceFrom m requests moves).Returned i a → (i, a) ∈ (oneByOne requests order m).1) ∧
      (∀ i j, (Pool.fresh (fun i => (requests i).script) m).Precedes Memory.backend noEdit moves i j →
        j ∈ order → [i, j].Sublist order) ∧
      (oneByOne requests order m).2 = (raceFrom m requests moves).store := by
  have hsound := Circumstances.sound_calm hm.consistent.indexed
  obtain ⟨deeds, hdeeds, -, horder⟩ :=
    Pool.exists_explanation (getAlong_calm hids m.accounts) (fun i => (requests i).script) hsound
      (fun i => (requests i).atomic_backend (.calm m.accounts) id (hfresh i)) moves
  have hreplayed := replayed_of_chain hids hsound hfresh hdeeds.chain hdeeds.nodup
  exact ⟨Deed.actors deeds, hdeeds.nodup, fun i hi => hdeeds.started hi,
    fun i a h => hreplayed.answered (hdeeds.returned h), horder, hreplayed.store⟩

end Race

/-- Both deposits answer with one operation, as they would one by one. -/
theorem race_linearizable_twoDeposits :
    Function.Injective (fun b => (Submission.twoDeposits b).operationId) ∧
    (∀ b, Memory.opened.operations.get? (Submission.twoDeposits b).operationId = none) ∧
    ∃ (op : Operation) (order : List Bool), order.Nodup ∧
      (∀ b, (raceFrom .opened Submission.twoDeposits (Move.alternating 14)).Returned b (.ok op)) ∧
      (∀ b, (b, .ok op) ∈ (oneByOne Submission.twoDeposits order .opened).1) ∧
      (oneByOne Submission.twoDeposits order .opened).2 =
        (raceFrom .opened Submission.twoDeposits (Move.alternating 14)).store := by
  have hfresh : ∀ b, Memory.opened.operations.get? (Submission.twoDeposits b).operationId = none :=
    fun _ => rfl
  obtain ⟨order, hnodup, -, hanswers, -, hstore⟩ := race_linearizable Memory.reached_opened
    Submission.twoDeposits Submission.twoDeposits_ids hfresh (Move.alternating 14)
  have hreturned : ∃ op, ∀ b,
      (raceFrom .opened Submission.twoDeposits (Move.alternating 14)).Returned b (.ok op) :=
    ⟨_, Bool.forall_bool.2 ⟨⟨rfl, rfl⟩, ⟨rfl, rfl⟩⟩⟩
  obtain ⟨op, hop⟩ := hreturned
  exact ⟨Submission.twoDeposits_ids, hfresh, op, order, hnodup, hop,
    fun b => hanswers b _ (hop b), hstore⟩

end Daybook.Booking
