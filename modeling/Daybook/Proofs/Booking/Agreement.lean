import Daybook.Proofs.Booking.Atomicity
import Daybook.Proofs.Script.Turns

/-!
Agreement on references. Any number of submissions race on one store, in any order of their single
calls, while accounts come and go and others try to delete operations. A reference never has more
than one operation, every submission that succeeds answers with the operation of its reference, and
nobody is told about a conflict (`race_agrees`).
-/

namespace Daybook

/-- Accounts come and go, and every call is heard. -/
def Circumstances.shifting : Circumstances :=
  ⟨none, False⟩

namespace Booking

variable {ι : Type} {requests : ι → Submission}

/-- The postings of some of the submissions. -/
def Posts (requests : ι → Submission) (among : ι → Prop) (p : Posting) : Prop :=
  ∃ i, among i ∧ ∃ o, (requests i).Books o p

theorem Posts.proper {among : ι → Prop} {p : Posting} (h : Posts requests among p) : p.Proper := by
  obtain ⟨i, -, o, hbooks⟩ := h
  exact hbooks.proper

/-- An operation has one submission and one posting. -/
theorem books_unique (hids : Function.Injective fun i => (requests i).operationId) {i j : ι}
    {o o' : Order} {p p' : Posting} (h : (requests i).Books o p) (h' : (requests j).Books o' p')
    (hid : p.operation.id = p'.operation.id) : i = j ∧ p = p' := by
  have hij : i = j := by
    apply hids
    show (requests i).operationId = (requests j).operationId
    rw [← h.id_eq, hid, h'.id_eq]
  subst hij
  exact ⟨rfl, (h.unique h').2⟩

/-- Submissions with different ids get along, with one another and with edits. -/
theorem getAlong (hids : Function.Injective fun i => (requests i).operationId) :
    Pool.GetAlong Memory.edit (fun m => m.Consistent (Posts requests fun _ => True) fun _ _ => True)
      (fun i => Memory.Spares (requests i).operationId)
      fun i => (requests i).Acts .shifting where
  refl _ := .refl _
  trans _ _ _ _ := .trans
  acted := by
    intro i s a t hs hact
    refine ⟨hact.consistent hs (fun hbooks => ⟨i, trivial, _, hbooks⟩) fun _ _ _ _ _ _ => trivial, ?_⟩
    exact fun j hji => hact.spares fun hid => hji (hids hid)
  outside := by
    intro s e hs
    have hsame := hs.edit Posts.proper e
    exact ⟨hs.of_sameBooks hsame, fun j => hsame.spares _⟩

/-- What the deeds done so far leave behind. -/
structure Agreed (requests : ι → Submission) (deeds : List (Deed ι Edit Result)) (m : Memory) :
    Prop where
  consistent : m.Consistent (Posts requests (· ∈ Deed.actors deeds)) fun _ _ => True
  answered : ∀ {i op}, .acted i (.ok op) ∈ deeds →
    ∃ o, (requests i).order = .ok o ∧ m.findByReference o.reference = some op
  failed : ∀ {i text}, .acted i (.error (.store (.duplicateReference text))) ∉ deeds

/-- What is answered stays where it was found. -/
theorem Agreed.find {deeds : List (Deed ι Edit Result)} {m m' : Memory}
    (h : Agreed requests deeds m) (hm' : m'.Indexed) (hkept : m.Extends m') {i : ι} {op : Operation}
    (hmem : .acted i (.ok op) ∈ deeds) :
    ∃ o, (requests i).order = .ok o ∧ m'.findByReference o.reference = some op := by
  obtain ⟨o, ho, hfind⟩ := h.answered hmem
  exact ⟨o, ho, hkept.find h.consistent.indexed hm' hfind⟩

/-- **Every chain of deeds from a store with nothing in it is agreed on.** -/
theorem agreed_of_chain {deeds : List (Deed ι Edit Result)} {m : Memory}
    (h : Deed.Chain (fun i => (requests i).Acts .shifting) Memory.edit .empty deeds m) :
    Agreed requests deeds m := by
  induction h with
  | nil => exact ⟨.empty, nofun, nofun⟩
  | @acted deeds t i a u earlier step ih =>
      have hconsistent : u.Consistent (Posts requests (· ∈ Deed.actors (deeds ++ [.acted i a])))
          fun _ _ => True := by
        simp only [Deed.actors_append, List.mem_append]
        refine step.consistent (ih.consistent.mono ?_) ?_ fun _ _ _ _ _ _ => trivial
        · rintro p ⟨j, hj, hbooks⟩
          exact ⟨j, Or.inl hj, hbooks⟩
        · intro o p hbooks
          exact ⟨i, Or.inr List.mem_cons_self, o, hbooks⟩
      refine ⟨hconsistent, ?_, ?_⟩
      · intro j op hmem
        rcases List.mem_append.1 hmem with hmem | hmem
        · exact ih.find hconsistent.indexed step.kept hmem
        · cases List.mem_singleton.1 hmem
          exact step.found
      · intro j text hmem
        rcases List.mem_append.1 hmem with hmem | hmem
        · exact ih.failed hmem
        · cases List.mem_singleton.1 hmem
          exact step.ne_conflict id
  | @outside deeds t e earlier ih =>
      have hsame := ih.consistent.edit Posts.proper e
      have hactors : Deed.actors (deeds ++ [.outside e]) = Deed.actors deeds := by
        rw [Deed.actors_append]
        exact List.append_nil _
      have hmem : ∀ {i : ι} {a : Result}, .acted i a ∈ deeds ++ [.outside e] → .acted i a ∈ deeds := by
        intro i a hmem
        rcases List.mem_append.1 hmem with hmem | hmem
        · exact hmem
        · cases List.mem_singleton.1 hmem
      refine ⟨?_, ?_, fun h => ih.failed (hmem h)⟩
      · rw [hactors]
        exact ih.consistent.of_sameBooks hsame
      · exact fun h => ih.find (hsame.indexed ih.consistent.indexed)
          (.of_eq hsame.operations) (hmem h)

section Race

variable [DecidableEq ι]

/-- The submissions after some moves, from a store with nothing in it. -/
def race (requests : ι → Submission) (moves : List (Move ι Edit)) :
    Pool ι Memory MemoryDraft Result :=
  (Pool.fresh (fun i => (requests i).script) .empty).run Memory.backend Memory.edit moves

theorem race_agreed (hids : Function.Injective fun i => (requests i).operationId)
    (moves : List (Move ι Edit)) :
    ∃ deeds, Agreed requests deeds (race requests moves).store ∧
      (∀ {i}, i ∈ Deed.actors deeds → (race requests moves).started i = true) ∧
      ∀ {i a}, (race requests moves).Returned i a → .acted i a ∈ deeds := by
  obtain ⟨deeds, hdeeds, -, -⟩ :=
    Pool.exists_explanation (getAlong hids) (fun i => (requests i).script) Memory.Consistent.empty
      (fun i => (requests i).atomic_backend .shifting (fun hs => ⟨hs.indexed, nofun⟩) rfl) moves
  exact ⟨deeds, agreed_of_chain hdeeds.chain, hdeeds.started, hdeeds.returned⟩

/-- What a submission answers is stored under its reference, also after more moves. -/
theorem race_stored (hids : Function.Injective fun i => (requests i).operationId)
    {moves : List (Move ι Edit)} {i : ι} {op : Operation}
    (h : (race requests moves).Returned i (.ok op)) (more : List (Move ι Edit)) :
    Reference.parse (requests i).command.reference = .ok op.reference ∧
      (race requests (moves ++ more)).store.findByReference op.reference = some op ∧
      (race requests (moves ++ more)).store.operations.get? op.id = some op := by
  have hmore : (race requests (moves ++ more)).Returned i (.ok op) := by
    rw [race, Pool.run_append]
    exact h.run more
  obtain ⟨deeds, hdeeds, -, hreturned⟩ := race_agreed hids (moves ++ more)
  obtain ⟨o, ho, hfind⟩ := hdeeds.answered (hreturned hmore)
  obtain ⟨hop, hreference⟩ := hdeeds.consistent.indexed.find_iff.1 hfind
  rw [hreference]
  exact ⟨(Command.check_eq_ok ho).1, hfind, hop⟩

/-- What is stored was posted by one of the submissions that were started. -/
theorem race_posted (hids : Function.Injective fun i => (requests i).operationId)
    {moves : List (Move ι Edit)} {id : OperationId} {op : Operation}
    (hop : (race requests moves).store.operations.get? id = some op) :
    ∃ i, (race requests moves).started i = true ∧
      ∃ o, (requests i).Books o ⟨op, (race requests moves).store.entriesOfOperation id⟩ := by
  obtain ⟨deeds, hdeeds, hstarted, -⟩ := race_agreed hids moves
  obtain ⟨i, hi, hbooks⟩ := hdeeds.consistent.posted hop
  exact ⟨i, hstarted hi, hbooks⟩

/-- **Agreement on references.** A reference has at most one operation; what a submission answers is
the operation of its reference, which has been processed and stays stored with its entries whatever
comes after; the entries of an operation are those of the one submission that posted it; and no
submission fails because of its reference. -/
theorem race_agrees (requests : ι → Submission)
    (hids : Function.Injective fun i => (requests i).operationId) (moves : List (Move ι Edit)) :
    (∀ id id' op op', (race requests moves).store.operations.get? id = some op →
      (race requests moves).store.operations.get? id' = some op' →
        op.reference = op'.reference → id = id' ∧ op = op') ∧
    (∀ i op, (race requests moves).Returned i (.ok op) →
      Reference.parse (requests i).command.reference = .ok op.reference ∧ op.status = .processed ∧
        ∀ more, (race requests (moves ++ more)).store.findByReference op.reference = some op ∧
          (race requests (moves ++ more)).store.operations.get? op.id = some op ∧
          (race requests (moves ++ more)).store.entriesOfOperation op.id =
            (race requests moves).store.entriesOfOperation op.id) ∧
    (∀ id op, (race requests moves).store.operations.get? id = some op →
      ∃! i, (race requests moves).started i = true ∧
        ∃ o, (requests i).Books o ⟨op, (race requests moves).store.entriesOfOperation id⟩) ∧
    ∀ i text, ¬ (race requests moves).Returned i (.error (.store (.duplicateReference text))) := by
  obtain ⟨deeds, hdeeds, -, hreturned⟩ := race_agreed hids moves
  have hindexed := hdeeds.consistent.indexed
  refine ⟨?_, ?_, ?_, fun i text h => hdeeds.failed (hreturned h)⟩
  · intro id id' op op' hop hop' hreference
    have hsame := hindexed.unique hop hop' hreference
    refine ⟨?_, hsame⟩
    calc
      id = op.id := (hindexed.keyed hop).symm
      _ = op'.id := by rw [hsame]
      _ = id' := hindexed.keyed hop'
  · intro i op h
    obtain ⟨hparse, -, hop⟩ := race_stored hids h []
    rw [List.append_nil] at hop
    obtain ⟨j, -, o, hbooks⟩ := race_posted hids hop
    refine ⟨hparse, ?_, fun more => ?_⟩
    · rw [show op = (requests j).operation o from hbooks.operation]
      rfl
    · obtain ⟨-, hfind, hop'⟩ := race_stored hids h more
      obtain ⟨j', -, o', hbooks'⟩ := race_posted hids hop'
      obtain ⟨-, hposting⟩ := books_unique hids hbooks' hbooks rfl
      exact ⟨hfind, hop', congrArg Posting.entries hposting⟩
  · intro id op hop
    obtain ⟨i, hstarted, o, hbooks⟩ := race_posted hids hop
    refine ⟨i, ⟨hstarted, o, hbooks⟩, ?_⟩
    rintro j ⟨-, o', hbooks'⟩
    exact (books_unique hids hbooks' hbooks rfl).1

end Race

/-- The account of two deposits is opened, and then they take turns. -/
def turnsOfTwo : List (Move Bool Edit) :=
  .outside (.insertAccount Submission.depositAccount) :: Move.alternating 14

/-- The second deposit finds the account, writes its own operation, and answers with the first
one. -/
theorem race_agrees_on_twoDeposits :
    Function.Injective (fun b => (Submission.twoDeposits b).operationId) ∧
    ∃ op, (race Submission.twoDeposits turnsOfTwo).Returned false (.ok op) ∧
      (race Submission.twoDeposits turnsOfTwo).Returned true (.ok op) ∧
      ∀ more, (race Submission.twoDeposits (turnsOfTwo ++ more)).store.findByReference op.reference =
        some op := by
  refine ⟨Submission.twoDeposits_ids, _, ⟨rfl, rfl⟩, ⟨rfl, rfl⟩, fun more => ?_⟩
  obtain ⟨-, hanswers, -, -⟩ :=
    race_agrees Submission.twoDeposits Submission.twoDeposits_ids turnsOfTwo
  exact ((hanswers true _ ⟨rfl, rfl⟩).2.2 more).1

end Booking
end Daybook
