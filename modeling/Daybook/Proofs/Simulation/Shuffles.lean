import Daybook.Proofs.Booking.Batches
import Daybook.Proofs.Simulation.Counts
import Daybook.Proofs.Text.Padded

/-!
Batches that are shuffled. The commands of a batch have different references, because numbers in digits
differ and trimming takes nothing from their end (`Simulation.trim_numbered_injective`). So it makes no
difference in which order they are sent: there is a report for every shuffle or for none, the books are the
same, and the report is of as many operations as there are commands (`Simulation.shuffles_agree`).
-/

namespace Daybook

/-- Nothing is taken from the end of a text that does not end with blanks. -/
theorem Text.trimChars_append {front back : List Char} (hne : back ≠ [])
    (hback : ∀ c ∈ back, isBlank c = false) :
    trimChars (front ++ back) = front.dropWhile isBlank ++ back := by
  have hfront : (front ++ back).dropWhile isBlank = front.dropWhile isBlank ++ back := by
    rw [List.dropWhile_append]
    split_ifs with hempty
    · rw [dropWhile_of_solid hback, List.isEmpty_iff.1 hempty, List.nil_append]
    · rfl
  have hlast : (back.reverse ++ (front.dropWhile isBlank).reverse).dropWhile isBlank =
      back.reverse ++ (front.dropWhile isBlank).reverse := by
    cases hreverse : back.reverse with
    | nil => exact absurd (List.reverse_eq_nil_iff.1 hreverse) hne
    | cons c cs =>
        have hc : c ∈ back := List.mem_reverse.1 (hreverse ▸ List.mem_cons_self)
        rw [List.cons_append, List.dropWhile_cons_of_neg (by simp [hback c hc])]
  rw [trimChars, hfront, List.reverse_append, hlast, ← List.reverse_append, List.reverse_reverse]

namespace Simulation

/-! ### References -/

/-- The reference of that number. -/
def numberedReference (reference : String) (n : Nat) : String :=
  reference ++ "-" ++ numbered n

/-- The number stays when the reference is trimmed. -/
theorem toList_trim_numbered (reference : String) (n : Nat) :
    (Text.trim (numberedReference reference n)).toList =
      reference.toList.dropWhile Text.isBlank ++ '-' :: Text.padded 10 3 n := by
  have htext : (numberedReference reference n).toList = reference.toList ++ '-' :: Text.padded 10 3 n := by
    simp [numberedReference, numbered]
  rw [Text.toList_trim, htext]
  refine Text.trimChars_append (List.cons_ne_nil _ _) (List.forall_mem_cons.2 ⟨rfl, fun c hc => ?_⟩)
  exact Text.isBlank_of_isDigit (Text.isDigit_of_mem_padded hc)

theorem trim_numbered_injective (reference : String) :
    Function.Injective fun n => Text.trim (numberedReference reference n) := by
  intro n k h
  have hchars := congrArg String.toList h
  simp only [toList_trim_numbered] at hchars
  exact Text.padded_injective 3 (List.cons.inj (List.append_cancel_left hchars)).2

/-! ### Batches -/

/-- That many times the amount. -/
def product (amount : Decimal) (n : Nat) : Option Decimal := do
  amount.mul? (← Decimal.ofNat? n)

theorem variant_eq (base : Command) (n : Nat) :
    variant base n = (product base.amount n).map fun amount =>
      { base with reference := numberedReference base.reference n, amount := amount } := by
  unfold variant product numberedReference
  cases Decimal.ofNat? n with
  | none => rfl
  | some times => cases hamount : base.amount.mul? times <;> simp [hamount]

variable {base : Command} {count : Nat} {commands : List Command} {settings : Settings} {supply : Supply}
  {r : Request} {mv : Movement} {m m' : Memory} {report : Report} {ops : List Operation}

/-- A batch has the numbered references and the products, in order, and is of one kind. -/
theorem batch_spec (h : batch base count = some commands) :
    commands.map (·.reference) = (List.range count).map (fun i => numberedReference base.reference (i + 1)) ∧
      commands.map (some ·.amount) = (List.range count).map (fun i => product base.amount (i + 1)) ∧
      ∀ c ∈ commands, ∃ reference amount,
        c = { base with reference := reference, amount := amount } := by
  rw [batch, mapM_eq_some_iff] at h
  generalize List.range count = numbers at h ⊢
  induction h with
  | nil => exact ⟨rfl, rfl, List.forall_mem_nil _⟩
  | @cons n c numbers commands hvariant _ ih =>
      obtain ⟨hreferences, hamounts, hkind⟩ := ih
      rw [variant_eq] at hvariant
      obtain ⟨amount, hproduct, rfl⟩ := Option.map_eq_some_iff.1 hvariant
      refine ⟨?_, ?_, List.forall_mem_cons.2 ⟨⟨_, _, rfl⟩, hkind⟩⟩
      · rw [List.map_cons, List.map_cons, hreferences]
      · rw [List.map_cons, List.map_cons, hamounts, hproduct]

theorem nodup_batch (h : batch base count = some commands) :
    (commands.map fun c => Text.trim c.reference).Nodup := by
  have htexts : commands.map (fun c => Text.trim c.reference) =
      (List.range count).map fun n => Text.trim (numberedReference base.reference (n + 1)) := by
    have hreferences := congrArg (List.map Text.trim) (batch_spec h).1
    rwa [List.map_map, List.map_map] at hreferences
  rw [htexts]
  refine List.nodup_range.map fun n k hnk => ?_
  exact Nat.succ_injective (trim_numbered_injective base.reference hnk)

theorem length_batch (h : batch base count = some commands) : commands.length = count := by
  have hreferences := congrArg List.length (batch_spec h).1
  rwa [List.length_map, List.length_map, List.length_range] at hreferences

theorem asks_commandFor (reference : String) (amount : Decimal) (mv : Movement) :
    (commandFor reference amount mv).Asks mv := by
  cases mv with
  | transfer account target => exact ⟨rfl, rfl, rfl⟩
  | _ => exact ⟨rfl, rfl⟩

theorem asks_of_mem_batch (h : batch base count = some commands) (hasks : base.Asks mv) {c : Command}
    (hc : c ∈ commands) : c.Asks mv := by
  obtain ⟨reference, amount, rfl⟩ := (batch_spec h).2.2 c hc
  cases mv <;> exact hasks

/-! ### Runs -/

theorem Supply.map_attempts {α : Type} (supply : Supply) (f : Command → α) (cs : List Command) :
    (supply.attempts cs).map (fun a => f a.command) = cs.map f := by
  apply List.ext_getElem <;> simp [attempts, attempt]

/-- What is sent of a batch is one for the books, too. -/
theorem batch_attempts (hfresh : supply.Fresh count m) (hshuffle : ∀ cs, (supply.shuffle cs).Perm cs)
    (h : batch base count = some commands) :
    Booking.Batch settings (supply.attempts (supply.shuffle commands)) m := by
  have hlength : (supply.shuffle commands).length = count :=
    (hshuffle commands).length_eq.trans (length_batch h)
  refine .of_texts (hfresh.of_commands hlength) ?_ ?_
  · intro a ha
    obtain ⟨n, hn, rfl⟩ := List.mem_mapIdx.1 ha
    rfl
  · rw [supply.map_attempts fun c => Text.trim c.reference, ((hshuffle commands).map _).nodup_iff]
    exact nodup_batch h

/-- What there is to say about one shuffle of a batch that was reported on. -/
structure Shuffled (settings : Settings) (mv : Movement) (commands sent : List Command) (m : Memory)
    (report : Report) (m' : Memory) : Prop where
  requests : report.requests = commands.length
  unique : report.unique = commands.length
  texts : report.operations.map (·.reference.text) = sent.map fun c => Text.trim c.reference
  /-- Where nothing was booked before, the balances change by what the commands move. -/
  effect : (∀ c ∈ commands, c.Free m) → ∀ id,
    m'.balance id = m.balance id + (commands.map fun c => c.moved settings mv id).sum

theorem shuffled_of_answers (hm : m.Reached fun _ => True) (hfresh : supply.Fresh count m)
    (hshuffle : ∀ cs, (supply.shuffle cs).Perm cs) (hbatch : batch base count = some commands)
    (hasks : base.Asks mv)
    (hanswers : Booking.answers settings (supply.attempts (supply.shuffle commands)) m = ops.map .ok) :
    Shuffled settings mv commands (supply.shuffle commands) m ((Scenario.outOfOrder count).report ops)
      (Booking.after settings (supply.attempts (supply.shuffle commands)) m) := by
  have hsent : Booking.Batch settings (supply.attempts (supply.shuffle commands)) m :=
    batch_attempts hfresh hshuffle hbatch
  have hcount := length_batch hbatch
  have hperm := hshuffle commands
  have hindexed := hm.consistent.indexed
  have htexts := Booking.texts_of_answers hindexed hsent.fresh hanswers
  rw [supply.map_attempts fun c => Text.trim c.reference] at htexts
  refine ⟨hcount.symm, ?_, htexts, ?_⟩
  · have hlength : ops.length = commands.length := by
      have hsame := congrArg List.length htexts
      rwa [List.length_map, List.length_map, hperm.length_eq] at hsame
    have hnodup : (ops.map (·.id)).Nodup := by
      refine Booking.nodup_of_answers hindexed hsent.fresh hanswers ?_
      rw [supply.map_attempts fun c => Text.trim c.reference, (hperm.map _).nodup_iff]
      exact nodup_batch hbatch
    show distinct ops = commands.length
    rw [distinct_eq_card, List.toFinset_card_of_nodup hnodup, List.length_map, hlength]
  · intro hfree id
    have hmem : ∀ c ∈ (supply.attempts (supply.shuffle commands)).map (·.command), c ∈ commands := by
      intro c hc
      rw [supply.map_attempts fun c => c, List.map_id'] at hc
      exact hperm.mem_iff.1 hc
    rw [hsent.balance_eq hm trivial hanswers (fun c hc => asks_of_mem_batch hbatch hasks (hmem c hc))
      (fun c hc => hfree c (hmem c hc)), supply.map_attempts fun c => c, List.map_id',
      (hperm.map _).sum_eq]

/-- With accounts given, a batch is reported on exactly if it can be made and is answered. -/
theorem outOfOrder_gives (hgiven : r.movement? = some mv) :
    (run settings supply r (.outOfOrder count)).Gives Memory.backend m (.ok report) m' ↔
      ∃ commands, batch (commandFor (supply.referenceFor r) r.amount mv) count = some commands ∧
        ∃ ops, Booking.answers settings (supply.attempts (supply.shuffle commands)) m = ops.map .ok ∧
          Booking.after settings (supply.attempts (supply.shuffle commands)) m = m' ∧
          (Scenario.outOfOrder count).report ops = report := by
  rw [run_gives, prepare_given hgiven]
  constructor
  · rintro ⟨base, m₀, hprepared, commands, hcommands, hrun⟩
    obtain ⟨hbase, rfl⟩ := Script.gives_done.1 hprepared
    cases hbase
    obtain ⟨unshuffled, hbatch, rfl⟩ := Option.map_eq_some_iff.1 hcommands
    exact ⟨unshuffled, hbatch, hrun⟩
  · rintro ⟨commands, hbatch, hrun⟩
    exact ⟨_, m, ⟨rfl, rfl⟩, _, Option.map_eq_some_iff.2 ⟨commands, hbatch, rfl⟩, hrun⟩

theorem outOfOrder_reports (hgiven : r.movement? = some mv) :
    (∃ report m', (run settings supply r (.outOfOrder count)).Gives Memory.backend m (.ok report) m') ↔
      ∃ commands, batch (commandFor (supply.referenceFor r) r.amount mv) count = some commands ∧
        ∃ ops : List Operation,
          Booking.answers settings (supply.attempts (supply.shuffle commands)) m = ops.map .ok := by
  simp only [outOfOrder_gives hgiven]
  constructor
  · rintro ⟨report, m', commands, hbatch, ops, hanswers, -, -⟩
    exact ⟨commands, hbatch, ops, hanswers⟩
  · rintro ⟨commands, hbatch, ops, hanswers⟩
    exact ⟨_, _, commands, hbatch, ops, hanswers, rfl, rfl⟩

/-- **A shuffle makes no difference.** The numbered references differ, also when they are trimmed. With
two shuffles of a batch either there are reports on both or on none. If there are, the balances and the
numbers of entries are the same, and both reports are of as many submissions and different operations as
there are commands, with the references in the order in which the commands were sent. Where none of the
references was booked before, the balances change by what the movements of the products come to. -/
theorem shuffles_agree (hm : m.Reached fun _ => True) (settings : Settings) {r : Request} {mv : Movement}
    (hgiven : r.movement? = some mv) (count : Nat) {left right : Supply}
    (hreference : left.referenceFor r = right.referenceFor r)
    (hleft : ∀ cs, (left.shuffle cs).Perm cs) (hright : ∀ cs, (right.shuffle cs).Perm cs)
    (hfreshLeft : left.Fresh count m) (hfreshRight : right.Fresh count m) :
    (Function.Injective fun n => Text.trim (numberedReference (left.referenceFor r) n)) ∧
    ((∃ report m', (run settings left r (.outOfOrder count)).Gives Memory.backend m (.ok report) m') ↔
      ∃ report m', (run settings right r (.outOfOrder count)).Gives Memory.backend m (.ok report) m') ∧
    ∀ report m₁ report' m₂,
      (run settings left r (.outOfOrder count)).Gives Memory.backend m (.ok report) m₁ →
      (run settings right r (.outOfOrder count)).Gives Memory.backend m (.ok report') m₂ →
      (∀ id, m₁.balance id = m₂.balance id ∧ (m₁.entriesOf id).length = (m₂.entriesOf id).length) ∧
      ∃ commands, commands.length = count ∧
        commands.map (·.reference) =
          (List.range count).map (fun i => numberedReference (left.referenceFor r) (i + 1)) ∧
        commands.map (some ·.amount) = (List.range count).map (fun i => product r.amount (i + 1)) ∧
        Shuffled settings mv commands (left.shuffle commands) m report m₁ ∧
        Shuffled settings mv commands (right.shuffle commands) m report' m₂ := by
  have hindexed := hm.consistent.indexed
  have hsent : ∀ commands, ((left.attempts (left.shuffle commands)).map (·.command)).Perm
      ((right.attempts (right.shuffle commands)).map (·.command)) := by
    intro commands
    rw [left.map_attempts fun c => c, right.map_attempts fun c => c]
    exact ((hleft commands).trans (hright commands).symm).map _
  refine ⟨trim_numbered_injective _, ?_, ?_⟩
  · rw [outOfOrder_reports hgiven, outOfOrder_reports hgiven, ← hreference]
    refine exists_congr fun commands => and_congr_right fun hbatch => ?_
    exact Booking.Batch.answered_perm (batch_attempts hfreshLeft hleft hbatch)
      (batch_attempts hfreshRight hright hbatch) (hsent commands) hindexed
  · intro report m₁ report' m₂ hrun hrun'
    rw [outOfOrder_gives hgiven] at hrun hrun'
    rw [← hreference] at hrun'
    obtain ⟨commands, hbatch, ops, hanswers, rfl, rfl⟩ := hrun
    obtain ⟨commands', hbatch', ops', hanswers', rfl, rfl⟩ := hrun'
    cases hbatch.symm.trans hbatch'
    have hasks := asks_commandFor (left.referenceFor r) r.amount mv
    obtain ⟨hreferences, hamounts, -⟩ := batch_spec hbatch
    constructor
    · exact Booking.Batch.books_agree (batch_attempts hfreshLeft hleft hbatch)
        (batch_attempts hfreshRight hright hbatch) (hsent commands) hm trivial hanswers hanswers'
    · refine ⟨commands, length_batch hbatch, ?_, ?_,
        shuffled_of_answers hm hfreshLeft hleft hbatch hasks hanswers,
        shuffled_of_answers hm hfreshRight hright hbatch hasks hanswers'⟩
      · rw [hreferences]
        cases mv <;> rfl
      · rw [hamounts]
        cases mv <;> rfl

/-- The same stamps, and no shuffle. -/
def inOrder : Supply :=
  { reversing with shuffle := id }

/-- A batch of three deposits is booked from behind as it is in order, and in the order of the program. -/
theorem shuffles_agree_depositAgain :
    Memory.onceDeposited.Reached (fun _ => True) ∧
    depositAgain.movement? = some (.deposit Submission.depositAccount.id) ∧
    reversing.referenceFor depositAgain = inOrder.referenceFor depositAgain ∧
    (∀ cs, (reversing.shuffle cs).Perm cs) ∧ (∀ cs, (inOrder.shuffle cs).Perm cs) ∧
    reversing.Fresh 3 .onceDeposited ∧ inOrder.Fresh 3 .onceDeposited ∧
    programSupply.Fresh 3 .onceDeposited ∧
    ∃ report m₁ report' m₂ report'' m₃,
      (run .default reversing depositAgain (.outOfOrder 3)).Gives Memory.backend .onceDeposited
        (.ok report) m₁ ∧
      (run .default inOrder depositAgain (.outOfOrder 3)).Gives Memory.backend .onceDeposited
        (.ok report') m₂ ∧
      (run .default programSupply depositAgain (.outOfOrder 3)).Gives Memory.backend .onceDeposited
        (.ok report'') m₃ ∧
      report.operations.map (·.reference.text) = ["R-1-003", "R-1-002", "R-1-001"] ∧
      ∀ id, m₁.balance id = m₂.balance id ∧ m₁.balance id = m₃.balance id := by
  have hm : Memory.onceDeposited.Reached fun _ => True := Memory.reached_onceDeposited trivial
  have hreversing : ∀ cs, (reversing.shuffle cs).Perm cs := List.reverse_perm
  have hinOrder : ∀ cs, (inOrder.shuffle cs).Perm cs := List.Perm.refl
  have hfresh : reversing.Fresh 3 .onceDeposited := ⟨by decide, by decide⟩
  have hfresh' : inOrder.Fresh 3 .onceDeposited := ⟨by decide, by decide⟩
  have hfresh'' : programSupply.Fresh 3 .onceDeposited := ⟨by decide, by decide⟩
  have hgiven : depositAgain.movement? = some (.deposit Submission.depositAccount.id) := rfl
  have hreference : reversing.referenceFor depositAgain = inOrder.referenceFor depositAgain := rfl
  have hruns : ∃ report m₁ report' m₂,
      (run .default reversing depositAgain (.outOfOrder 3)).Gives Memory.backend .onceDeposited
        (.ok report) m₁ ∧
      (run .default inOrder depositAgain (.outOfOrder 3)).Gives Memory.backend .onceDeposited
        (.ok report') m₂ ∧
      report.operations.map (·.reference.text) = ["R-1-003", "R-1-002", "R-1-001"] :=
    ⟨_, _, _, _, ⟨rfl, rfl⟩, ⟨rfl, rfl⟩, rfl⟩
  obtain ⟨report, m₁, report', m₂, hleft, hright, htexts⟩ := hruns
  obtain ⟨-, -, hagree⟩ :=
    shuffles_agree hm .default hgiven 3 hreference hreversing hinOrder hfresh hfresh'
  obtain ⟨hbooks, -⟩ := hagree report m₁ report' m₂ hleft hright
  -- The program's order is not computed: there is a report because there is one for the reversed batch.
  have hreference' : reversing.referenceFor depositAgain = programSupply.referenceFor depositAgain := rfl
  have hprogram : ∀ cs, (programSupply.shuffle cs).Perm cs := Main.shuffle_supply_perm _ _
  obtain ⟨-, hreports, hagree'⟩ :=
    shuffles_agree hm .default hgiven 3 hreference' hreversing hprogram hfresh hfresh''
  obtain ⟨report'', m₃, hown⟩ := hreports.1 ⟨report, m₁, hleft⟩
  obtain ⟨hbooks', -⟩ := hagree' report m₁ report'' m₃ hleft hown
  exact ⟨hm, hgiven, hreference, hreversing, hinOrder, hfresh, hfresh', hfresh'', report, m₁, report', m₂,
    report'', m₃, hleft, hright, hown, htexts, fun id => ⟨(hbooks id).1, (hbooks' id).1⟩⟩

end Simulation
end Daybook
