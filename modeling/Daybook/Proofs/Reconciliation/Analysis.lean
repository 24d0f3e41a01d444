import Daybook.Proofs.Money.Rounding
import Daybook.Proofs.Reconciliation.Consistency
import Daybook.Proofs.Reconciliation.Newest

/-!
What a report on a record tells. Its direction is that of the balances, also where their difference is
rounded (`Divergence.of_cases`), and it shows the last entries of the account, of one moment those that
came last (`Memory.recent_recentEntries`). The sentence of a report names the side, the difference without
its sign and the number of entries (`Reconciliation.analysis_truthful`).
-/

namespace Daybook

/-! ### The last entries -/

/-- Which entries are shown and which are left out, of the entries as they came. -/
structure Recent (stored shown omitted : List Entry) : Prop where
  perm : (shown ++ omitted).Perm stored
  newest : shown.Pairwise fun a b => b.createdAt.le a.createdAt = true
  /-- Nothing that is left out is newer than what is shown. -/
  older : ∀ a ∈ shown, ∀ b ∈ omitted, b.createdAt.le a.createdAt = true
  /-- Of one moment the entry that came last is the first. -/
  latest : ∀ t, (shown ++ omitted).filter (·.createdAt == t) =
    (stored.filter (·.createdAt == t)).reverse

namespace Memory

/-- Entries of one moment are sorted as they came. -/
theorem filter_entriesOf (m : Memory) (id : AccountId) (t : Time) :
    (m.entriesOf id).filter (·.createdAt == t) =
      (m.entries.filter (·.account == id)).filter (·.createdAt == t) :=
  filter_mergeSort _ (fun _ _ _ => Time.le_trans) (fun _ _ => Time.le_total _ _)
    fun _ _ => Time.le_of_beq

theorem length_recentEntries (m : Memory) (id : AccountId) (limit : Nat) :
    (m.recentEntries id limit).length = min limit (m.entries.filter (·.account == id)).length := by
  rw [recentEntries, List.length_take, List.length_reverse, entriesOf, List.length_mergeSort]

theorem recent_recentEntries (m : Memory) (id : AccountId) (limit : Nat) :
    Recent (m.entries.filter (·.account == id)) (m.recentEntries id limit)
      ((m.entriesOf id).reverse.drop limit) := by
  have hwhole : m.recentEntries id limit ++ (m.entriesOf id).reverse.drop limit =
      (m.entriesOf id).reverse := List.take_append_drop limit _
  have hsorted : ((m.entriesOf id).reverse).Pairwise fun a b => b.createdAt.le a.createdAt = true :=
    List.pairwise_reverse.2 (pairwise_byTime Entry.createdAt _)
  rw [← hwhole, List.pairwise_append] at hsorted
  obtain ⟨hnewest, -, holder⟩ := hsorted
  refine ⟨?_, hnewest, holder, fun t => ?_⟩
  · rw [hwhole]
    exact (List.reverse_perm _).trans (List.mergeSort_perm _ _)
  · rw [hwhole, List.filter_reverse, filter_entriesOf]

end Memory

/-! ### Directions -/

namespace Money

theorem value_abs (m : Money) : m.abs.value = |m.value| := by
  have habs : m.abs.value = (m.amount.abs.signed : Rat) / (tens m.amount.scale : Nat) := rfl
  rw [habs, Decimal.signed_abs, Int.cast_natCast]
  exact m.amount.abs_value.symm

end Money

namespace Divergence

variable {r : Reconciliation}

/-- A direction is that of the balances. -/
theorem of_cases (r : Reconciliation) :
    r.expected.value = r.calculated.value ∧ of r = .none ∨
    r.expected.value < r.calculated.value ∧ of r = .calculatedHigher ∨
    r.calculated.value < r.expected.value ∧ of r = .calculatedLower := by
  have hsign := r.sign_difference
  have hzero := Money.value_eq_zero_iff r.difference
  have hpositive := Money.isPositive_iff_value r.difference
  rcases lt_trichotomy r.expected.value r.calculated.value with hless | hequal | hmore
  · rw [sign_neg (sub_neg.2 hless), sign_eq_neg_one_iff] at hsign
    refine Or.inr (Or.inl ⟨hless, ?_⟩)
    rw [of, if_neg fun h => hsign.ne (hzero.2 h), if_neg fun h => hsign.not_gt (hpositive.1 h)]
  · rw [hequal, sub_self, sign_zero, sign_eq_zero_iff] at hsign
    exact Or.inl ⟨hequal, by rw [of, if_pos (hzero.1 hsign)]⟩
  · rw [sign_pos (sub_pos.2 hmore), sign_eq_one_iff] at hsign
    refine Or.inr (Or.inr ⟨hmore, ?_⟩)
    rw [of, if_neg fun h => hsign.ne' (hzero.2 h), if_pos (hpositive.2 hsign)]

theorem of_eq_none_iff : of r = .none ↔ r.expected.value = r.calculated.value := by
  rcases of_cases r with ⟨h, hof⟩ | ⟨h, hof⟩ | ⟨h, hof⟩
  · simp [hof, h]
  · simp [hof, h.ne]
  · simp [hof, h.ne']

theorem of_eq_calculatedHigher_iff :
    of r = .calculatedHigher ↔ r.expected.value < r.calculated.value := by
  rcases of_cases r with ⟨h, hof⟩ | ⟨h, hof⟩ | ⟨h, hof⟩
  · simp [hof, h]
  · simp [hof, h]
  · simp [hof, h.le]

theorem of_eq_calculatedLower_iff :
    of r = .calculatedLower ↔ r.calculated.value < r.expected.value := by
  rcases of_cases r with ⟨h, hof⟩ | ⟨h, hof⟩ | ⟨h, hof⟩
  · simp [hof, h]
  · simp [hof, h.le]
  · simp [hof, h]

/-- The sentence on a divergence. -/
def sentence (side : String) (difference : Money) (shown : Nat) : String :=
  "Divergence detected! Calculated balance is " ++ side ++ " than expected by " ++
    difference.amount.toText ++ ". Showing the last " ++ shown.repr ++
    " entries for investigation. Check for: missing operations, duplicate processing, " ++
    "or incorrect amount calculations."

/-- The sentence takes its side from the balances. -/
theorem describe_cases (r : Reconciliation) (shown : Nat) :
    (r.expected.value = r.calculated.value →
      describe r shown = "Balances match. No divergence detected.") ∧
    (r.expected.value < r.calculated.value →
      describe r shown = sentence "higher" r.difference.abs shown) ∧
    (r.calculated.value < r.expected.value →
      describe r shown = sentence "lower" r.difference.abs shown) := by
  refine ⟨fun h => ?_, fun h => ?_, fun h => ?_⟩
  · rw [describe, of_eq_none_iff.2 h]
  · rw [describe, of_eq_calculatedHigher_iff.2 h]
    rfl
  · rw [describe, of_eq_calculatedLower_iff.2 h]
    rfl

end Divergence

/-! ### Reports -/

/-- What a report tells, of the record that it carries and of the store. -/
structure DivergenceReport.Tells (report : DivergenceReport) (m : Memory) (limit : Nat) : Prop where
  length : report.recentEntries.length =
    min limit (m.entries.filter (·.account == report.record.account)).length
  recent : ∃ omitted, Recent (m.entries.filter (·.account == report.record.account))
    report.recentEntries omitted
  none : report.direction = .none ↔ report.record.expected.value = report.record.calculated.value
  higher : report.direction = .calculatedHigher ↔
    report.record.expected.value < report.record.calculated.value
  lower : report.direction = .calculatedLower ↔
    report.record.calculated.value < report.record.expected.value
  describe_none : report.direction = .none →
    report.analysis = "Balances match. No divergence detected."
  describe_higher : report.direction = .calculatedHigher →
    report.analysis =
      Divergence.sentence "higher" report.record.difference.abs report.recentEntries.length
  describe_lower : report.direction = .calculatedLower →
    report.analysis =
      Divergence.sentence "lower" report.record.difference.abs report.recentEntries.length
  magnitude : report.record.difference.abs.value = |report.record.difference.value|

namespace Reconciliation

theorem tells_of (record : Reconciliation) (m : Memory) (limit : Nat) :
    (DivergenceReport.of record (m.recentEntries record.account limit)).Tells m limit := by
  have hdescribe := Divergence.describe_cases record (m.recentEntries record.account limit).length
  obtain ⟨hnone, hhigher, hlower⟩ := hdescribe
  exact {
    length := m.length_recentEntries record.account limit
    recent := ⟨_, m.recent_recentEntries record.account limit⟩
    none := Divergence.of_eq_none_iff
    higher := Divergence.of_eq_calculatedHigher_iff
    lower := Divergence.of_eq_calculatedLower_iff
    describe_none := fun h => hnone (Divergence.of_eq_none_iff.1 h)
    describe_higher := fun h => hhigher (Divergence.of_eq_calculatedHigher_iff.1 h)
    describe_lower := fun h => hlower (Divergence.of_eq_calculatedLower_iff.1 h)
    magnitude := record.difference.value_abs }

/-- A missing record is the only error, and nothing is written. -/
theorem ending_analyze (m : Memory) (id : ReconciliationId) (limit : Nat) :
    (analyze id limit).ending Memory.backend m =
      (match m.findReconciliation id with
        | none => .error (.reconciliationNotFound id)
        | some record => .ok (DivergenceReport.of record (m.recentEntries record.account limit)),
      m) := by
  refine (Script.ending_call (m.reads.findReconciliation id)).trans ?_
  cases m.findReconciliation id with
  | none => rfl
  | some record => exact Script.ending_call (Memory.backend_answers rfl)

/-- **A report tells the truth.** Looking into a record fails exactly if none with that id is stored, and
changes nothing. Otherwise the report carries the stored record and the last entries of its account, as
many as were asked for and are there, the newest first. Its direction says which of the two balances is
higher, and its sentence names that side, the difference without its sign and the number of entries. -/
theorem analysis_truthful (m : Memory) (id : ReconciliationId) (limit : Nat) :
    let ending := (analyze id limit).ending Memory.backend m
    ending.2 = m ∧
    (∀ e, ending.1 = .error e ↔
      e = .reconciliationNotFound id ∧ ∀ r ∈ m.reconciliations, r.id ≠ id) ∧
    ((∃ report, ending.1 = .ok report) ↔ ∃ r ∈ m.reconciliations, r.id = id) ∧
    ∀ report, ending.1 = .ok report →
      report.record ∈ m.reconciliations ∧ report.record.id = id ∧
      ((m.reconciliations.map (·.id)).Nodup →
        ∀ r ∈ m.reconciliations, r.id = id → r = report.record) ∧
      report.Tells m limit := by
  intro ending
  have hending : ending = _ := ending_analyze m id limit
  clear_value ending
  subst hending
  cases hfound : m.findReconciliation id with
  | none =>
      have hmissing : ∀ r ∈ m.reconciliations, r.id ≠ id := by
        simpa [Memory.findReconciliation] using hfound
      simpa [@eq_comm _ (Error.reconciliationNotFound id)] using hmissing
  | some record =>
      have hmem : record ∈ m.reconciliations := List.mem_of_find?_eq_some hfound
      have hid : record.id = id := by simpa using List.find?_some hfound
      refine ⟨rfl, fun e => iff_of_false (fun h => by cases h) fun h => h.2 record hmem hid,
        iff_of_true ⟨_, rfl⟩ ⟨record, hmem, hid⟩, ?_⟩
      rintro report ⟨⟩
      refine ⟨hmem, hid, fun hnodup r hr hsame => ?_, tells_of record m limit⟩
      exact List.inj_on_of_nodup_map hnodup hr hmem (hsame.trans hid.symm)

end Reconciliation
end Daybook
