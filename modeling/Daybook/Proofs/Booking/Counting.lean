import Daybook.Proofs.Booking.Run
import Daybook.Proofs.Memory.Rows
import Mathlib.Data.Finset.Card

/-!
How many operations a run adds, counted by its answers. An attempt that is answered has been answered
with an operation that was stored already, or adds the one that it is answered with
(`Attempt.go_answered`). So the attempts of a run are the repeats and the operations that it adds
(`Booking.repeats_add_size`), and what it adds are the operations of its answers that were not stored
before, each once (`Booking.card_novel_add_size`).
-/

namespace Daybook

namespace Attempt

variable {settings : Settings} {m : Memory} {op : Operation}

/-- An attempt that is answered finds its operation there, or adds it. -/
theorem go_answered (a : Attempt) (hm : m.Indexed) (hfresh : m.operations.get? a.operationId = none)
    (hop : (a.go settings m).1 = .ok op) :
    (m.operations.contains op.id = true ∧ (a.go settings m).2 = m) ∨
    m.operations.contains op.id = false ∧
      ∃ p : Posting, p.operation = op ∧ (a.go settings m).2 = m.post p := by
  have hacts := a.acts settings hm hfresh
  generalize a.go settings m = result at hacts hop ⊢
  obtain ⟨r, m'⟩ := result
  cases hacts with
  | known checked found =>
      cases hop
      refine Or.inl ⟨?_, rfl⟩
      rw [Table.contains, (hm.find_iff.1 found).1]
      rfl
  | @booked o p books fresh free present clear =>
      cases hop
      exact Or.inr ⟨Table.contains_eq_false_iff.2 fresh, p, rfl, rfl⟩
  | _ => cases hop

end Attempt

namespace Booking

variable {settings : Settings} {attempts : List Attempt} {m : Memory} {ops : List Operation}

/-- How many attempts are answered with an operation that is stored already. -/
def repeats (settings : Settings) : List Attempt → Memory → Nat
  | [], _ => 0
  | a :: attempts, m =>
    let known :=
      match (a.go settings m).1 with
      | .ok op => m.operations.contains op.id
      | .error _ => false
    known.toNat + repeats settings attempts (a.go settings m).2

/-- Those of the ids that no stored operation has. -/
def novel (m : Memory) (ids : List OperationId) : Finset OperationId :=
  ids.toFinset.filter fun id => m.operations.contains id = false

/-- **An attempt is a repeat, or it adds an operation.** -/
theorem repeats_add_size (hm : m.Indexed) (hfresh : Fresh attempts m)
    (hanswers : answers settings attempts m = ops.map .ok) :
    repeats settings attempts m + (after settings attempts m).operations.size =
      attempts.length + m.operations.size := by
  induction attempts generalizing m ops with
  | nil => rfl
  | cons a attempts ih =>
      obtain ⟨op, rest, rfl, hop, hrest⟩ := answers_cons_iff.1 hanswers
      have hnext := ih (a.indexed_go settings hm hfresh.head) (hfresh.tail hm settings) hrest
      rw [repeats, after_cons, hop, List.length_cons]
      rcases a.go_answered hm hfresh.head hop with ⟨hknown, hsame⟩ | ⟨hnew, p, rfl, hposted⟩
      · rw [hsame] at hnext ⊢
        simp only [hknown, Bool.toNat_true]
        omega
      · have hsize : (a.go settings m).2.operations.size = m.operations.size + 1 := by
          rw [hposted]
          exact Table.size_insert hnew _
        simp only [hnew, Bool.toNat_false]
        omega

/-- What is stored already does not count. -/
theorem novel_cons_of_known {id : OperationId} (h : m.operations.contains id = true)
    (ids : List OperationId) : novel m (id :: ids) = novel m ids := by
  rw [novel, List.toFinset_cons, Finset.filter_insert, if_neg (by simp [h]), novel]

/-- What is posted counts once. -/
theorem novel_cons_of_posted {p : Posting} (h : m.operations.contains p.operation.id = false)
    (ids : List OperationId) :
    (novel m (p.operation.id :: ids)).card = (novel (m.post p) ids).card + 1 := by
  have hstored : ∀ id, (m.post p).operations.contains id =
      (decide (id = p.operation.id) || m.operations.contains id) := by
    intro id
    rw [Memory.post, Table.contains_insert]
  have hinsert : novel m (p.operation.id :: ids) = insert p.operation.id (novel (m.post p) ids) := by
    ext id
    by_cases hid : id = p.operation.id
    · simp [novel, hid, h]
    · simp [novel, hid, hstored]
  rw [hinsert, Finset.card_insert_of_notMem]
  simp [novel, hstored]

/-- **The operations that a run adds are those of its answers that were not stored before.** -/
theorem card_novel_add_size (hm : m.Indexed) (hfresh : Fresh attempts m)
    (hanswers : answers settings attempts m = ops.map .ok) :
    (novel m (ops.map (·.id))).card + m.operations.size =
      (after settings attempts m).operations.size := by
  induction attempts generalizing m ops with
  | nil =>
      cases ops with
      | nil => simp [novel, after]
      | cons op ops => cases hanswers
  | cons a attempts ih =>
      obtain ⟨op, rest, rfl, hop, hrest⟩ := answers_cons_iff.1 hanswers
      have hnext := ih (a.indexed_go settings hm hfresh.head) (hfresh.tail hm settings) hrest
      rw [after_cons, List.map_cons, ← hnext]
      rcases a.go_answered hm hfresh.head hop with ⟨hknown, hsame⟩ | ⟨hnew, p, rfl, hposted⟩
      · rw [hsame, novel_cons_of_known hknown]
      · rw [hposted, novel_cons_of_posted hnew, Memory.post, Table.size_insert hnew]
        omega

end Booking
end Daybook
