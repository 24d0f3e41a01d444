import Daybook.Proofs.Booking.Reached

/-!
All or nothing. Whatever goes wrong with the calls of a submission, in the end the store is as it
was, or it has the whole posting and nothing else (`submit_all_or_nothing`).
-/

namespace Daybook.Booking

/-- How a submission may end. -/
inductive Ending where
  | refused
  /-- With an operation that was stored already. -/
  | known
  | booked

namespace Ending

/-- What an ending says about the store before, the result, and the store after. -/
def Holds (q : Submission) (m : Memory) (result : Result) (m' : Memory) : Ending → Prop
  | refused => (∃ e, result = .error e) ∧ m' = m
  | known =>
    ∃ op, result = .ok op ∧ Reference.parse q.command.reference = .ok op.reference ∧
      m.findByReference op.reference = some op ∧ m' = m
  | booked =>
    ∃ order p, q.Books order p ∧ result = .ok p.operation ∧
      Reference.parse q.command.reference = .ok p.operation.reference ∧
      p.operation.status = .processed ∧ p.operation.processedAt.isSome = true ∧
      m.findByReference p.operation.reference = none ∧ m' = m.post p

variable {q : Submission} {m m' : Memory} {result : Result}

theorem eq_of_holds {ending ending' : Ending} (h : ending.Holds q m result m')
    (h' : ending'.Holds q m result m') : ending = ending' := by
  have hknown : ∀ {op p : _}, m.findByReference op.reference = some op →
      (Except.ok op : Result) = .ok p → m.findByReference p.reference = none → False := by
    intro op p hop heq hp
    cases heq
    rw [hop] at hp
    cases hp
  cases ending with
  | refused =>
      obtain ⟨⟨e, rfl⟩, -⟩ := h
      cases ending' with
      | refused => rfl
      | known => obtain ⟨op, hop, -⟩ := h'; cases hop
      | booked => obtain ⟨o, p, -, hp, -⟩ := h'; cases hp
  | known =>
      obtain ⟨op, rfl, -, hfound, -⟩ := h
      cases ending' with
      | refused => obtain ⟨⟨e, he⟩, -⟩ := h'; cases he
      | known => rfl
      | booked =>
          obtain ⟨o, p, -, hp, -, -, -, hfree, -⟩ := h'
          exact (hknown hfound hp hfree).elim
  | booked =>
      obtain ⟨o, p, -, rfl, -, -, -, hfree, -⟩ := h
      cases ending' with
      | refused => obtain ⟨⟨e, he⟩, -⟩ := h'; cases he
      | known =>
          obtain ⟨op, hop, -, hfound, -⟩ := h'
          exact (hknown hfound hop.symm hfree).elim
      | booked => rfl

/-- Every step of a submission is one of the endings. -/
theorem exists_of_acts {v : Circumstances} (hm : m.Indexed) (h : q.Acts v m result m') :
    ∃ ending : Ending, ending.Holds q m result m' := by
  cases h with
  | @known o op checked found =>
      obtain ⟨-, hreference⟩ := hm.find_iff.1 found
      refine ⟨known, op, rfl, ?_, ?_, rfl⟩
      · rw [hreference]
        exact (Command.check_eq_ok checked).1
      · rw [hreference]
        exact found
  | @booked o p books fresh free present clear =>
      refine ⟨booked, o, p, books, rfl, ?_, ?_, ?_, free, rfl⟩
      · rw [books.reference_eq]
        exact (Command.check_eq_ok books.checked).1
      · rw [books.operation]
        rfl
      · rw [books.operation]
        rfl
  | malformed => exact ⟨refused, ⟨_, rfl⟩, rfl⟩
  | obstructed => exact ⟨refused, ⟨_, rfl⟩, rfl⟩
  | refused => exact ⟨refused, ⟨_, rfl⟩, rfl⟩

end Ending

/-- **All or nothing**, under every schedule. What is answered is found under the reference
afterwards. -/
theorem submit_all_or_nothing {m : Memory} (hm : m.Reached fun _ => True) (q : Submission)
    (hfresh : m.operations.get? q.operationId = none) (schedule : List Disturbance) :
    (∃! ending : Ending, ending.Holds q m (q.submit schedule m).1 (q.submit schedule m).2) ∧
    ∀ op, (q.submit schedule m).1 = .ok op →
      ∃ r, Reference.parse q.command.reference = .ok r ∧
        (q.submit schedule m).2.findByReference r = some op := by
  have hindexed := hm.consistent.indexed
  have hacts := q.submit_acts hindexed hfresh schedule
  constructor
  · obtain ⟨ending, hending⟩ := Ending.exists_of_acts hindexed hacts
    exact ⟨ending, hending, fun ending' h => Ending.eq_of_holds h hending⟩
  · intro op hop
    rw [hop] at hacts
    obtain ⟨o, ho, hfind⟩ := hacts.found
    exact ⟨o.reference, (Command.check_eq_ok ho).1, hfind⟩

/-- The second of two deposits misses the first one, and answers with it all the same. -/
theorem missed_deposit_all_or_nothing :
    Memory.onceDeposited.operations.get? (Submission.twoDeposits true).operationId = none ∧
    (∃! ending : Ending, ending.Holds (Submission.twoDeposits true) .onceDeposited
      ((Submission.twoDeposits true).submit [.oversight] .onceDeposited).1
      ((Submission.twoDeposits true).submit [.oversight] .onceDeposited).2) ∧
    ∃ op, ((Submission.twoDeposits true).submit [.oversight] .onceDeposited).1 = .ok op ∧
      op.id = (Submission.twoDeposits false).operationId := by
  obtain ⟨hending, -⟩ := submit_all_or_nothing (Memory.reached_onceDeposited trivial)
    (Submission.twoDeposits true) rfl [.oversight]
  exact ⟨rfl, hending, _, rfl, rfl⟩

end Daybook.Booking
