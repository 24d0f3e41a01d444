import Daybook.Proofs.Booking.Reached
import Daybook.Proofs.Lists
import Daybook.Proofs.Stores.Tables

/-!
In which order records are shown. They are sorted by moment, newest first, and the sorting keeps records
of one moment in the order in which they came (`Memory.filter_newestFirst`). So with a clock that never
goes back the records are shown in the reverse order of their arrival exactly if no two came at one
moment (`Memory.histories_ordered`); where two did, the older one is shown first
(`Memory.histories_unreversed`). Entries, and the records of a database, are turned round whole.
-/

namespace Daybook

theorem Time.le_of_beq {a b t : Time} (ha : (a == t) = true) (hb : (b == t) = true) :
    a.le b = true := by
  rw [beq_iff_eq.1 ha, beq_iff_eq.1 hb]
  exact Time.le_refl t

/-! ### Sorting -/

namespace Memory

theorem newer_trans (a b c : Reconciliation) (hab : b.createdAt.le a.createdAt = true)
    (hbc : c.createdAt.le b.createdAt = true) : c.createdAt.le a.createdAt = true :=
  Time.le_trans hbc hab

theorem newer_total (a b : Reconciliation) :
    (b.createdAt.le a.createdAt || a.createdAt.le b.createdAt) = true :=
  Time.le_total b.createdAt a.createdAt

variable {rs : List Reconciliation}

/-- Records of one moment are shown as they came. -/
theorem filter_newestFirst (rs : List Reconciliation) (t : Time) :
    (newestFirst rs).filter (·.createdAt == t) = rs.filter (·.createdAt == t) :=
  filter_mergeSort rs newer_trans newer_total fun _ _ ha hb => Time.le_of_beq hb ha

/-- Records that came in the order of time are turned round, if no two are of one moment. -/
theorem newestFirst_eq_reverse (htimes : rs.Pairwise fun a b => a.createdAt.le b.createdAt = true)
    (hapart : (rs.map (·.createdAt)).Nodup) : newestFirst rs = rs.reverse := by
  refine mergeSort_eq_reverse newer_trans newer_total htimes fun a b ha hb hba hab => ?_
  exact List.inj_on_of_nodup_map hapart ha hb (Time.le_antisymm hab hba)

/-- Records that are turned round are of different moments. -/
theorem nodup_of_newestFirst (hnodup : rs.Nodup) (h : newestFirst rs = rs.reverse) :
    (rs.map (·.createdAt)).Nodup := by
  refine List.nodup_iff_count_le_one.2 fun t => ?_
  have hmoment := filter_newestFirst rs t
  rw [h, List.filter_reverse] at hmoment
  have hone := length_le_one_of_reverse_eq (hnodup.filter _) hmoment
  rwa [List.count_eq_countP, List.countP_map, List.countP_eq_length_filter]

/-- How a history shows the records that are stored. -/
structure History (stored shown : List Reconciliation) : Prop where
  perm : shown.Perm stored
  newest : shown.Pairwise fun a b => b.createdAt.le a.createdAt = true
  /-- Those of one moment are in the order in which they came. -/
  appended : ∀ t, shown.filter (·.createdAt == t) = stored.filter (·.createdAt == t)
  /-- They are turned round exactly if no two are of one moment. -/
  reversed : stored.Nodup → (shown = stored.reverse ↔ (stored.map (·.createdAt)).Nodup)

theorem history_newestFirst (htimes : rs.Pairwise fun a b => a.createdAt.le b.createdAt = true) :
    History rs (newestFirst rs) where
  perm := List.mergeSort_perm _ _
  newest := pairwise_newestFirst Reconciliation.createdAt rs
  appended := filter_newestFirst rs
  reversed hnodup := ⟨nodup_of_newestFirst hnodup, newestFirst_eq_reverse htimes⟩

/-- Entries that came in the order of time are turned round, whether two are of one moment or not. -/
theorem recentEntries_eq_reverse {m : Memory}
    (htimes : m.entries.Pairwise fun a b => a.createdAt.le b.createdAt = true) (id : AccountId)
    (limit : Nat) :
    m.recentEntries id limit = (m.entries.filter (·.account == id)).reverse.take limit := by
  rw [recentEntries, entriesOf_of_sorted htimes]

end Memory

/-! ### The order by stamps -/

namespace Stamp

theorem le_iff {a b : Stamp} : a.le b = true ↔
    a.time.key < b.time.key ∨ a.time.key = b.time.key ∧ a.id.toNat ≤ b.id.toNat := by
  rw [Stamp.le]
  split_ifs with htime
  · simp [htime, Uuid.le]
  · have hkey : a.time.key ≠ b.time.key := fun h => htime (Time.key_injective h)
    rw [Time.le, decide_eq_true_iff]
    omega

theorem later_trans (a b c : Stamp) (hab : b.le a = true) (hbc : c.le b = true) : c.le a = true := by
  rw [le_iff] at *
  omega

theorem later_total (a b : Stamp) : (b.le a || a.le b) = true := by
  rw [Bool.or_eq_true, le_iff, le_iff]
  omega

end Stamp

/-- With ids that increase, a database turns the records round. -/
theorem Database.listRecords_eq_reverse {m : Memory}
    (htimes : m.reconciliations.Pairwise fun a b => a.createdAt.le b.createdAt = true)
    (hids : m.reconciliations.Pairwise fun a b => a.id.uuid.toNat < b.id.uuid.toNat)
    (p : RecordRow → Bool) :
    m.tables.listRecords p =
      .ok (m.reconciliations.filter fun r => p (.ofReconciliation r)).reverse := by
  have hapart : (m.reconciliations.map fun r => r.id.uuid.toNat).Nodup :=
    List.pairwise_map.2 (hids.imp fun h => h.ne)
  rw [listRecords_eq, mergeSort_eq_reverse (fun a b c => Stamp.later_trans a.stamp b.stamp c.stamp)
    (fun a b => Stamp.later_total a.stamp b.stamp)]
  · refine List.Pairwise.filter _ ((htimes.and hids).imp fun {a b} h => ?_)
    obtain ⟨htime, hid⟩ := h
    rw [Time.le, decide_eq_true_iff] at htime
    simp only [Stamp.le_iff, Reconciliation.stamp]
    omega
  · intro a b ha hb hba hab
    simp only [Stamp.le_iff, Reconciliation.stamp] at hba hab
    exact List.inj_on_of_nodup_map hapart (List.mem_of_mem_filter ha) (List.mem_of_mem_filter hb)
      (by omega)

/-! ### Histories -/

namespace Memory

/-- The store after records were put to it one after the other, as far as it takes them. -/
def keepAll (m : Memory) (rs : List Reconciliation) : Memory :=
  rs.foldl (fun m r => (m.answer (.insertReconciliation r)).2) m

theorem exists_kept (m : Memory) (rs : List Reconciliation) :
    ∃ kept, kept.Sublist rs ∧
      m.keepAll rs = { m with reconciliations := m.reconciliations ++ kept } := by
  induction rs generalizing m with
  | nil => exact ⟨[], .slnil, by rw [List.append_nil]; rfl⟩
  | cons r rs ih =>
      rw [keepAll, List.foldl_cons, ← keepAll]
      rcases m.answer_insertReconciliation r with ⟨-, -, hanswer⟩ | ⟨-, cause, hanswer⟩
      · rw [hanswer]
        obtain ⟨kept, hsublist, hkept⟩ := ih { m with reconciliations := m.reconciliations ++ [r] }
        refine ⟨r :: kept, hsublist.cons_cons r, hkept.trans ?_⟩
        rw [List.append_assoc, List.singleton_append]
      · rw [hanswer]
        obtain ⟨kept, hsublist, hkept⟩ := ih m
        exact ⟨kept, hsublist.cons r, hkept⟩

/-- **In which order histories are shown.** Whatever records are put to a store one after the other, in
the order of time, the records of the store and those of an account are shown newest first, and of one
moment in the order in which they came; that is the reverse order exactly if no two are of one moment.
The entries of an account are always turned round, and so are the records by a database, if their ids
increase. -/
theorem histories_ordered (m : Memory) (rs : List Reconciliation)
    (htimes : (m.reconciliations ++ rs).Pairwise fun a b => a.createdAt.le b.createdAt = true) :
    let after := m.keepAll rs
    let ofAccount (id : AccountId) := after.reconciliations.filter (·.account == id)
    (∃ kept, kept.Sublist rs ∧ after = { m with reconciliations := m.reconciliations ++ kept }) ∧
    (∃ shown, after.answer .allReconciliations = (.ok shown, after) ∧
      History after.reconciliations shown) ∧
    (∀ id, ∃ shown, after.answer (.reconciliationsOf id) = (.ok shown, after) ∧
      History (ofAccount id) shown) ∧
    (m.entries.Pairwise (fun a b => a.createdAt.le b.createdAt = true) → ∀ id limit,
      after.answer (.recentEntries id limit) =
        (.ok ((m.entries.filter (·.account == id)).reverse.take limit), after)) ∧
    (after.reconciliations.Pairwise (fun a b => a.id.uuid.toNat < b.id.uuid.toNat) →
      after.tables.answer .allReconciliations = (.ok after.reconciliations.reverse, after.tables) ∧
      ∀ id, after.tables.answer (.reconciliationsOf id) = (.ok (ofAccount id).reverse, after.tables)) := by
  intro after ofAccount
  obtain ⟨kept, hsublist, hafter⟩ := m.exists_kept rs
  have hsorted : after.reconciliations.Pairwise fun a b => a.createdAt.le b.createdAt = true := by
    rw [show after = _ from hafter]
    exact htimes.sublist (hsublist.append_left _)
  refine ⟨⟨kept, hsublist, hafter⟩, ⟨_, rfl, history_newestFirst hsorted⟩,
    fun id => ⟨_, rfl, history_newestFirst (hsorted.filter _)⟩, fun hentries id limit => ?_,
    fun hids => ⟨?_, fun id => ?_⟩⟩
  · have hsame : after.entries = m.entries := by rw [show after = _ from hafter]
    rw [answer, recentEntries_eq_reverse (hsame ▸ hentries), hsame]
  · rw [Database.answer, Database.listRecords_eq_reverse hsorted hids, List.filter_true]
    rfl
  · rw [Database.answer, Database.listRecords_eq_reverse hsorted hids]
    simp only [Database.RecordRow.ofReconciliation, Id.beq_uuid]
    rfl

/-- A reconciliation of an account that has nothing and is expected to have nothing. -/
def idle (n : Nat) (t : Time) : Reconciliation where
  id := ⟨⟨BitVec.ofNat 128 n⟩⟩
  account := Submission.depositAccount.id
  date := t
  expected := .zero .brl
  calculated := .zero .brl
  difference := .zero .brl
  status := .matching
  createdAt := t
  consistent := by decide

/-- Two of one moment, and one later on. -/
def threeIdle : List Reconciliation :=
  [idle 1 (.ofNanos 1), idle 2 (.ofNanos 1), idle 3 (.ofNanos 2)]

/-- The two that came at one moment are shown after the third, the first of them first. -/
theorem histories_ordered_threeIdle :
    (opened.reconciliations ++ threeIdle).Pairwise
      (fun a b => a.createdAt.le b.createdAt = true) ∧
    (opened.keepAll threeIdle).reconciliations = threeIdle ∧
    ∃ shown, (opened.keepAll threeIdle).answer .allReconciliations =
        (.ok shown, opened.keepAll threeIdle) ∧
      History threeIdle shown ∧ shown ≠ threeIdle.reverse := by
  have htimes : (opened.reconciliations ++ threeIdle).Pairwise
      fun a b => a.createdAt.le b.createdAt = true := by decide +kernel
  have hkept : (opened.keepAll threeIdle).reconciliations = threeIdle := by decide +kernel
  obtain ⟨-, ⟨shown, hshown, hhistory⟩, -⟩ := histories_ordered opened threeIdle htimes
  rw [hkept] at hhistory
  refine ⟨htimes, hkept, shown, hshown, hhistory, fun hreversed => ?_⟩
  exact absurd ((hhistory.reversed (by decide +kernel)).1 hreversed) (by decide +kernel)

/-- Two of one moment. -/
def twoIdle : List Reconciliation :=
  threeIdle.take 2

/-- **Two records of one moment are shown in the order in which they came**, and a database with the same
rows shows them turned round. -/
theorem histories_unreversed :
    let after := opened.keepAll twoIdle
    (opened.reconciliations ++ twoIdle).Pairwise (fun a b => a.createdAt.le b.createdAt = true) ∧
    after.reconciliations = twoIdle ∧ twoIdle ≠ twoIdle.reverse ∧
    after.answer .allReconciliations = (.ok twoIdle, after) ∧
    after.answer (.reconciliationsOf Submission.depositAccount.id) = (.ok twoIdle, after) ∧
    after.tables.answer .allReconciliations = (.ok twoIdle.reverse, after.tables) := by
  intro after
  have hkept : after.reconciliations = twoIdle := by decide +kernel
  have hsorted : newestFirst twoIdle = twoIdle := by
    have hmoment : twoIdle.Pairwise fun a b => b.createdAt.le a.createdAt = true := by decide +kernel
    exact List.mergeSort_of_pairwise hmoment
  have haccount : after.reconciliations.filter (·.account == Submission.depositAccount.id) =
      twoIdle := by decide +kernel
  refine ⟨by decide +kernel, hkept, by decide +kernel, ?_, ?_, ?_⟩
  · rw [answer, hkept, hsorted]
  · rw [answer, haccount, hsorted]
  · have htimes : after.reconciliations.Pairwise
        fun a b => a.createdAt.le b.createdAt = true := by decide +kernel
    have hids : after.reconciliations.Pairwise
        fun a b => a.id.uuid.toNat < b.id.uuid.toNat := by decide +kernel
    rw [Database.answer, Database.listRecords_eq_reverse htimes hids, List.filter_true, hkept]
    rfl

end Memory
end Daybook
