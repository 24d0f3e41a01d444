import Daybook.Operation
import Mathlib.Tactic.Common

/-!
Operations that are marked, again and again. A mark that is put on an operation in its place checks the
status before it writes the first field, so a refused one leaves nothing behind
(`Operation.call_eq_mark`). Whatever is called in whatever order, only the first call can be taken, and
only if the operation was still in processing (`Operation.moves_once`).
-/

namespace Daybook.Operation

/-- The ways to finish an operation. -/
inductive Mark where
  | processed | ignored | failed (reason : String)
deriving DecidableEq

namespace Mark

/-- The status that is asked for. -/
def status : Mark → Status
  | .processed => .processed
  | .ignored => .ignored
  | .failed _ => .failed

/-- The reason that is put on record. -/
def reason : Mark → Option String
  | .processed => none
  | .ignored => some duplicateReason
  | .failed reason => some reason

theorem status_ne_processing (mark : Mark) : mark.status ≠ .processing := by
  cases mark <;> exact Status.noConfusion

end Mark

/-- The operation with the mark. -/
def mark (op : Operation) (now : Time) : Mark → Except Error Operation
  | .processed => op.markProcessed now
  | .ignored => op.markIgnored now
  | .failed reason => op.markFailed reason now

/-! ### Marks put on an operation in its place -/

/-- The move in its place: the fields are written one after the other. -/
def moveInPlace (next : Status) (reason : Option String) (now : Time) :
    ExceptT Error (StateM Operation) Unit := do
  let op ← get
  if op.status.isTerminal then throw (.invalidTransition op.id op.status next)
  modify fun op => { op with status := next }
  modify fun op => { op with processedAt := some now }
  modify fun op => { op with failureReason := reason }

def markInPlace (now : Time) : Mark → ExceptT Error (StateM Operation) Unit
  | .processed => do
    let op ← get
    if op.status = .processed then throw (.alreadyProcessed op.id)
    moveInPlace .processed none now
  | .ignored => moveInPlace .ignored (some duplicateReason) now
  | .failed reason => moveInPlace .failed (some reason) now

/-- What a call answers, and the operation after it. -/
def call (op : Operation) (now : Time) (mark : Mark) : Except Error Unit × Operation :=
  (markInPlace now mark).run.run op

/-- A call comes to the operation with the mark, or to an error that leaves nothing behind. -/
theorem call_eq_mark (op : Operation) (now : Time) (mark : Mark) :
    op.call now mark =
      match op.mark now mark with
      | .ok op' => (.ok (), op')
      | .error cause => (.error cause, op) := by
  obtain ⟨id, reference, kind, status, createdAt, processedAt, failureReason⟩ := op
  cases mark <;> cases status <;> rfl

/-- The operation moved by the mark, all at once. -/
def marked (op : Operation) (now : Time) (mark : Mark) : Operation :=
  { op with status := mark.status, processedAt := some now, failureReason := mark.reason }

/-- Why a mark is refused. -/
def refusal (op : Operation) (mark : Mark) : Error :=
  if mark = .processed ∧ op.status = .processed then .alreadyProcessed op.id
  else .invalidTransition op.id op.status mark.status

theorem mark_of_processing {op : Operation} (h : op.status = .processing) (now : Time) (mark : Mark) :
    op.mark now mark = .ok (op.marked now mark) := by
  obtain ⟨id, reference, kind, status, createdAt, processedAt, failureReason⟩ := op
  cases h
  cases mark <;> rfl

theorem mark_of_terminal {op : Operation} (h : op.status ≠ .processing) (now : Time) (mark : Mark) :
    op.mark now mark = .error (op.refusal mark) := by
  obtain ⟨id, reference, kind, status, createdAt, processedAt, failureReason⟩ := op
  cases status with
  | processing => exact absurd rfl h
  | processed => cases mark <;> rfl
  | ignored => cases mark <;> rfl
  | failed => cases mark <;> rfl

theorem call_of_processing {op : Operation} (h : op.status = .processing) (now : Time) (mark : Mark) :
    op.call now mark = (.ok (), op.marked now mark) := by
  rw [call_eq_mark, mark_of_processing h]

theorem call_of_terminal {op : Operation} (h : op.status ≠ .processing) (now : Time) (mark : Mark) :
    op.call now mark = (.error (op.refusal mark), op) := by
  rw [call_eq_mark, mark_of_terminal h]

/-! ### Calls one after the other -/

/-- The operation after calls at their moments. -/
def after (op : Operation) (calls : List (Time × Mark)) : Operation :=
  calls.foldl (fun op call => (op.call call.1 call.2).2) op

variable {op : Operation} {calls : List (Time × Mark)}

theorem after_of_terminal (h : op.status ≠ .processing) (calls : List (Time × Mark)) :
    op.after calls = op := by
  induction calls with
  | nil => rfl
  | cons call calls ih => rw [after, List.foldl_cons, call_of_terminal h, ← after, ih]

/-- The first call decides. -/
theorem after_cons_of_processing (h : op.status = .processing) (now : Time) (mark : Mark)
    (calls : List (Time × Mark)) : op.after ((now, mark) :: calls) = op.marked now mark := by
  rw [after, List.foldl_cons, call_of_processing h, ← after]
  exact after_of_terminal mark.status_ne_processing calls

/-- An operation that is still in processing after calls was not called. -/
theorem eq_nil_of_processing (h : (op.after calls).status = .processing) : calls = [] := by
  cases calls with
  | nil => rfl
  | cons call calls =>
      by_cases hfirst : op.status = .processing
      · rw [after_cons_of_processing hfirst] at h
        exact absurd h call.2.status_ne_processing
      · rw [after_of_terminal hfirst] at h
        exact absurd h hfirst

/-- What calls can come to: an operation is as it was, or moved once. -/
theorem after_cases (op : Operation) (calls : List (Time × Mark)) :
    op.after calls = op ∨ op.status = .processing ∧ ∃ now mark, op.after calls = op.marked now mark := by
  cases calls with
  | nil => exact Or.inl rfl
  | cons call calls =>
      by_cases hfirst : op.status = .processing
      · exact Or.inr ⟨hfirst, call.1, call.2, after_cons_of_processing hfirst call.1 call.2 calls⟩
      · exact Or.inl (after_of_terminal hfirst _)

/-- The moment and the reason fit the status. -/
structure Dated (op : Operation) : Prop where
  processedAt : op.processedAt.isSome = true ↔ op.status.isTerminal = true
  failureReason : op.failureReason.isSome = true ↔ op.status = .ignored ∨ op.status = .failed

theorem dated_start (stamp : Stamp) (reference : Reference) (kind : Kind) :
    (start stamp reference kind).Dated :=
  ⟨by simp [start, Status.isTerminal], by simp [start]⟩

theorem dated_marked (op : Operation) (now : Time) (mark : Mark) : (op.marked now mark).Dated := by
  constructor <;> cases mark <;> simp [marked, Mark.status, Mark.reason, Status.isTerminal]

theorem Dated.after (h : op.Dated) (calls : List (Time × Mark)) : (op.after calls).Dated := by
  rcases op.after_cases calls with hsame | ⟨-, now, mark, hmarked⟩
  · rwa [hsame]
  · rw [hmarked]
    exact dated_marked op now mark

/-- **An operation moves once.** Of calls that mark an operation one after the other, whatever status it
has and whatever they ask for, one is taken exactly if the operation is still in processing, and that can
only be the first. It moves the operation as `mark` does; every other call leaves the operation as it is,
and tells that it was processed before, or else from which status to which it cannot move. What identifies
the operation never changes, and if it was started here, its moment and its reason fit its status. -/
theorem moves_once (op : Operation) (calls : List (Time × Mark)) :
    (∀ earlier now mark later, calls = earlier ++ (now, mark) :: later →
      let before := op.after earlier
      let result := before.call now mark
      (result.1 = .ok () ↔ before.status = .processing) ∧
      (result.1 = .ok () → earlier = [] ∧ before = op ∧ result.2 = op.marked now mark ∧
        op.mark now mark = .ok result.2) ∧
      ∀ cause, result.1 = .error cause → result.2 = before ∧ before.mark now mark = .error cause ∧
        (mark = .processed ∧ before.status = .processed → cause = .alreadyProcessed before.id) ∧
        (¬ (mark = .processed ∧ before.status = .processed) →
          cause = .invalidTransition before.id before.status mark.status)) ∧
    ((op.after calls).id = op.id ∧ (op.after calls).reference = op.reference ∧
      (op.after calls).kind = op.kind ∧ (op.after calls).createdAt = op.createdAt) ∧
    ∀ stamp reference kind, op = start stamp reference kind → (op.after calls).Dated := by
  refine ⟨fun earlier now mark later _ => ?_, ?_, ?_⟩
  · intro before result
    by_cases h : before.status = .processing
    · have hresult : result = (.ok (), before.marked now mark) := call_of_processing h now mark
      obtain rfl : earlier = [] := eq_nil_of_processing h
      rw [hresult]
      exact ⟨iff_of_true rfl h, fun _ => ⟨rfl, rfl, rfl, mark_of_processing h now mark⟩, nofun⟩
    · have hresult : result = (.error (before.refusal mark), before) := call_of_terminal h now mark
      rw [hresult]
      refine ⟨iff_of_false nofun h, nofun, ?_⟩
      rintro cause ⟨⟩
      exact ⟨rfl, mark_of_terminal h now mark, fun htwice => if_pos htwice, fun hother => if_neg hother⟩
  · rcases op.after_cases calls with hsame | ⟨-, now, mark, hmarked⟩
    · rw [hsame]
      exact ⟨rfl, rfl, rfl, rfl⟩
    · rw [hmarked]
      exact ⟨rfl, rfl, rfl, rfl⟩
  · rintro stamp reference kind rfl
    exact (dated_start stamp reference kind).after calls

end Daybook.Operation
