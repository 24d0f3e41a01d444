import Daybook.Main
import Daybook.Proofs.Booking.Counting
import Daybook.Proofs.Booking.Linearization
import Daybook.Proofs.Lists
import Daybook.Proofs.Simulation.Runs
import Mathlib.Data.List.FinRange

/-!
What the figures of a simulation say. The number of submissions and that of different operations are
right, also where the submissions take turns. The number of duplicates is what these two differ by, so
it leaves out one duplicate for each operation that was stored before the simulation: it is the number
of submissions that were answered with an operation stored already exactly if there was none
(`Simulation.report_counts`).
-/

namespace Daybook.Simulation

/-! ### Different operations -/

theorem distinct_eq_card (ops : List Operation) : distinct ops = (ops.map (·.id)).toFinset.card :=
  length_eraseDups _

theorem distinct_perm {ops ops' : List Operation} (h : ops.Perm ops') : distinct ops = distinct ops' := by
  rw [distinct_eq_card, distinct_eq_card, List.toFinset_eq_of_perm _ _ (h.map _)]

theorem distinct_le_length (ops : List Operation) : distinct ops ≤ ops.length := by
  rw [distinct_eq_card, ← List.length_map (·.id)]
  exact List.toFinset_card_le _

theorem distinct_eq_zero_iff {ops : List Operation} : distinct ops = 0 ↔ ops = [] := by
  rw [distinct_eq_card, Finset.card_eq_zero, List.toFinset_eq_empty_iff, List.map_eq_nil_iff]

/-- Those of the operations that are stored. -/
def known (m : Memory) (ops : List Operation) : List Operation :=
  ops.filter fun op => m.operations.contains op.id

/-- Different operations are stored or they are not. -/
theorem distinct_split (m : Memory) (ops : List Operation) :
    distinct ops = distinct (known m ops) + (Booking.novel m (ops.map (·.id))).card := by
  have hknown : ((known m ops).map (·.id)).toFinset =
      (ops.map (·.id)).toFinset.filter fun id => m.operations.contains id = true := by
    ext id
    simp only [known, List.mem_toFinset, List.mem_map, List.mem_filter, Finset.mem_filter]
    constructor
    · rintro ⟨op, ⟨hop, hstored⟩, rfl⟩
      exact ⟨⟨op, hop, rfl⟩, hstored⟩
    · rintro ⟨⟨op, hop, rfl⟩, hstored⟩
      exact ⟨op, ⟨hop, hstored⟩, rfl⟩
  have hsplit := (ops.map (·.id)).toFinset.card_filter_add_card_filter_not
    fun id => m.operations.contains id = true
  simp only [Bool.not_eq_true] at hsplit
  rw [distinct_eq_card, distinct_eq_card, hknown, ← hsplit, Booking.novel]

/-! ### Reports -/

variable {settings : Settings} {supply : Supply} {m m' m₀ : Memory} {attempts : List Attempt}
  {ops : List Operation} {scenario : Scenario} {report : Report} {base : Command} {commands : List Command}

/-- The report is on attempts that were answered with the operations, and has their number and that of
the operations. The attempts are the repeats and what they added; the duplicates leave out one of the
repeats for each operation that was stored before. -/
structure Report.Counts (report : Report) (settings : Settings) (attempts : List Attempt) (m : Memory)
    (ops : List Operation) (m' : Memory) : Prop where
  answers : Booking.answers settings attempts m = ops.map .ok
  after : Booking.after settings attempts m = m'
  requests : report.requests = attempts.length
  unique : report.unique = distinct ops
  added : Booking.repeats settings attempts m + m'.operations.size =
    report.requests + m.operations.size
  duplicates : report.duplicates + distinct (known m ops) = Booking.repeats settings attempts m
  exact_iff : report.duplicates = Booking.repeats settings attempts m ↔
    ∀ op ∈ ops, m.operations.contains op.id = false

/-- A report with the two numbers counts the rest. -/
theorem Report.counts_of_answers (hm : m.Indexed) (hfresh : Booking.Fresh attempts m)
    (hanswers : Booking.answers settings attempts m = ops.map .ok)
    (hafter : Booking.after settings attempts m = m') (hrequests : report.requests = attempts.length)
    (hunique : report.unique = distinct ops) : report.Counts settings attempts m ops m' := by
  have hadded := Booking.repeats_add_size hm hfresh hanswers
  have hnovel := Booking.card_novel_add_size hm hfresh hanswers
  have hsplit := distinct_split m ops
  have hlength : attempts.length = ops.length := by
    rw [← Booking.length_answers settings attempts m, hanswers, List.length_map]
  have hle := distinct_le_length ops
  have hduplicates : report.duplicates + distinct (known m ops) =
      Booking.repeats settings attempts m := by
    rw [Report.duplicates]
    omega
  have hexact : distinct (known m ops) = 0 ↔ ∀ op ∈ ops, m.operations.contains op.id = false := by
    rw [distinct_eq_zero_iff, known, List.filter_eq_nil_iff]
    simp only [Bool.not_eq_true]
  refine ⟨hanswers, hafter, hrequests, hunique, ?_, hduplicates, ?_⟩
  · rw [hrequests, ← hafter]
    exact hadded
  · rw [← hexact]
    omega

/-! ### Submissions that take turns -/

section Race

variable {ι : Type} {order : List ι} {attempt : ι → Attempt}

/-- Attempts that are heard do one by one what they do in a run. -/
theorem oneByOne_eq_run (hcalm : ∀ i, (attempt i).schedule = []) (order : List ι) (m : Memory) :
    Booking.oneByOne (fun i => (attempt i).submission settings) order m =
      (order.zip (Booking.answers settings (order.map attempt) m),
        Booking.after settings (order.map attempt) m) := by
  induction order generalizing m with
  | nil => rfl
  | cons i order ih =>
      have hgo := Attempt.go_eq_run (hcalm i) settings m
      rw [Booking.oneByOne, List.map_cons, Booking.answers, Booking.after_cons, hgo, ih]
      rfl

/-- In an order without repetitions, everybody has one answer. -/
theorem answers_of_zip {α : Type} {as : List α} {answer : ι → α} (horder : order.Nodup)
    (hlength : as.length = order.length) (h : ∀ i ∈ order, (i, answer i) ∈ order.zip as) :
    as = order.map answer := by
  have hfst : (order.zip as).map Prod.fst = order := List.map_fst_zip hlength.ge
  have hsnd : (order.zip as).map Prod.snd = as := List.map_snd_zip hlength.le
  have hsame : ∀ p ∈ order.zip as, p.2 = answer p.1 := by
    rintro ⟨i, a⟩ hp
    have hi : i ∈ order := (List.of_mem_zip hp).1
    have hunique := List.inj_on_of_nodup_map (hfst ▸ horder) hp (h i hi) rfl
    exact congrArg Prod.snd hunique
  calc
    as = (order.zip as).map Prod.snd := hsnd.symm
    _ = (order.zip as).map fun p => answer p.1 := List.map_congr_left hsame
    _ = ((order.zip as).map Prod.fst).map answer := List.map_map.symm
    _ = order.map answer := by rw [hfst]

end Race

/-- The attempts with one command that are made at once. -/
def Supply.parallel (supply : Supply) (n : Nat) (c : Command) (i : Fin n) : Attempt :=
  supply.attempt i c

/-- The submissions of these attempts after some moves. -/
def race (settings : Settings) (supply : Supply) (n : Nat) (c : Command) (m : Memory)
    (moves : List (Move (Fin n) Empty)) : Pool (Fin n) Memory MemoryDraft Booking.Result :=
  Booking.raceFrom m (fun i => (supply.parallel n c i).submission settings) moves

/-- What returns from a race are the answers of a run of all, in some order. -/
theorem exists_run_of_race {n : Nat} (hm : m.Reached fun _ => True) (hfresh : supply.Fresh n m)
    (c : Command) (moves : List (Move (Fin n) Empty)) {op : Fin n → Operation}
    (hreturned : ∀ i, (race settings supply n c m moves).Returned i (.ok (op i))) :
    ∃ order : List (Fin n), order.Perm (List.finRange n) ∧
      Booking.Fresh (order.map (supply.parallel n c)) m ∧
      Booking.answers settings (order.map (supply.parallel n c)) m = (order.map op).map .ok ∧
      Booking.after settings (order.map (supply.parallel n c)) m =
        (race settings supply n c m moves).store := by
  have hids : Function.Injective fun i => ((supply.parallel n c i).submission settings).operationId := by
    intro i j hij
    exact Fin.ext (hfresh.distinct i i.isLt j j.isLt hij)
  obtain ⟨order, hnodup, -, hanswers, -, hstore⟩ := Booking.race_linearizable hm _ hids
    (fun i => hfresh.unused i i.isLt) moves
  rw [oneByOne_eq_run fun _ => rfl] at hanswers hstore
  have hall : ∀ i, i ∈ order := fun i => (List.of_mem_zip (hanswers i _ (hreturned i))).1
  refine ⟨order, ?_, ?_, ?_, hstore⟩
  · refine (List.perm_ext_iff_of_nodup hnodup (List.nodup_finRange n)).2 fun i => ?_
    exact iff_of_true (hall i) (List.mem_finRange i)
  · refine hfresh.of_places (hnodup.map Fin.val_injective) ?_ ?_
    · intro i hi
      obtain ⟨j, -, rfl⟩ := List.mem_map.1 hi
      exact j.isLt
    · rw [List.map_map, List.map_map]
      rfl
  · rw [List.map_map]
    refine answers_of_zip hnodup ?_ fun i _ => hanswers i _ (hreturned i)
    rw [Booking.length_answers, List.length_map]

/-! ### What is reported -/

theorem Scenario.report_requests (scenario : Scenario) (ops : List Operation) :
    (scenario.report ops).requests = scenario.submissions := by
  cases scenario <;> rfl

theorem Scenario.report_unique (h : ops.length = scenario.submissions) :
    (scenario.report ops).unique = distinct ops := by
  cases scenario with
  | delayed delay =>
      obtain ⟨op, rfl⟩ := List.length_eq_one_iff.1 h
      rfl
  | _ => rfl

/-- **What a report counts.** A report gives the number of submissions and the number of different
operations that they were answered with. Its number of duplicates leaves out one submission for each
operation that was stored before, so it is that of the submissions that were answered with an operation
stored already exactly if there was no such operation. All this is so as well when the submissions of
`duplicate` take turns. -/
theorem report_counts (hm : m.Reached fun _ => True) (settings : Settings) (supply : Supply)
    (hshuffle : ∀ cs, (supply.shuffle cs).Perm cs) (r : Request) :
    (∀ scenario report m', supply.Fresh scenario.submissions m →
      (run settings supply r scenario).Gives Memory.backend m (.ok report) m' →
      ∃ base m₀ commands ops, (prepare supply r).Gives Memory.backend m (.ok base) m₀ ∧
        m.SameBooks m₀ ∧ scenario.commands supply base = some commands ∧
        commands.length = scenario.submissions ∧ scenario.report ops = report ∧
        report.Counts settings (supply.attempts commands) m₀ ops m') ∧
    ∀ n c m₀ (moves : List (Move (Fin n) Empty)) (op : Fin n → Operation),
      supply.Fresh n m → (prepare supply r).Gives Memory.backend m (.ok c) m₀ →
      (∀ i, (race settings supply n c m₀ moves).Returned i (.ok (op i))) →
      m.SameBooks m₀ ∧ ∃ order : List (Fin n), order.Perm (List.finRange n) ∧
        ((Scenario.duplicate n).report (List.ofFn op)).Counts settings (order.map (supply.parallel n c))
          m₀ (order.map op) (race settings supply n c m₀ moves).store := by
  constructor
  · intro scenario report m' hfresh hrun
    obtain ⟨base, m₀, hprepare, commands, hcommands, ops, hanswers, hafter, rfl⟩ :=
      (run_gives settings supply r scenario).1 hrun
    obtain ⟨hsame, hreached⟩ := prepare_keeps (fun _ => True) hprepare
    have hcount := Scenario.length_commands hshuffle hcommands
    have hattempts : (supply.attempts commands).length = scenario.submissions := by
      rw [Supply.attempts, List.length_mapIdx, hcount]
    have hops : ops.length = scenario.submissions := by
      rw [← hattempts, ← Booking.length_answers settings _ m₀, hanswers, List.length_map]
    refine ⟨base, m₀, commands, ops, hprepare, hsame, hcommands, hcount, rfl, ?_⟩
    exact Report.counts_of_answers (hreached hm).consistent.indexed
      ((hfresh.of_sameBooks hsame).of_commands hcount) hanswers hafter
      ((scenario.report_requests ops).trans hattempts.symm) (Scenario.report_unique hops)
  · intro n c m₀ moves op hfresh hprepare hreturned
    obtain ⟨hsame, hreached⟩ := prepare_keeps (fun _ => True) hprepare
    obtain ⟨order, horder, hplaces, hanswers, hafter⟩ :=
      exists_run_of_race (hreached hm) (hfresh.of_sameBooks hsame) c moves hreturned
    refine ⟨hsame, order, horder, ?_⟩
    refine Report.counts_of_answers (hreached hm).consistent.indexed hplaces hanswers hafter ?_ ?_
    · rw [List.length_map, horder.length_eq, List.length_finRange]
      rfl
    · refine distinct_perm ?_
      rw [List.ofFn_eq_map]
      exact (horder.map op).symm

/-- Stamps counted from 100, four for each submission; a shuffle turns a batch around. -/
def reversing : Supply where
  reference := ⟨7⟩
  account n := ⟨⟨BitVec.ofNat 128 (50 + n)⟩, .ofNanos n⟩
  booking n :=
    let stamp (k : Nat) : Stamp := ⟨⟨BitVec.ofNat 128 (100 + 4 * n + k)⟩, .ofNanos (100 + 4 * n + k)⟩
    ⟨stamp 0, stamp 1, stamp 2, .ofNanos (103 + 4 * n)⟩
  shuffle := List.reverse

/-- The deposit of 10 that has been booked already. -/
def depositAgain : Request :=
  ⟨some "R-1", .deposit, none, some Submission.depositAccount.id, (Decimal.ofNat? 10).getD .zero⟩

/-- What the program takes from outside when its clock stands at the start of 1970. -/
def programSupply : Supply :=
  Main.supply (.ofNanos 0) 5

/-- Two submissions are started and take turns. -/
def turns : List (Move (Fin 2) Empty) :=
  .start 0 :: .start 1 :: (List.replicate 14 [.advance 0, .advance 1]).flatten

/-- Three submissions of a deposit that has been booked already are reported as two duplicates, and two
at once as one. What the program reports of a batch in its own order counts as well. -/
theorem report_counts_depositAgain :
    Memory.onceDeposited.Reached (fun _ => True) ∧ (∀ cs, (reversing.shuffle cs).Perm cs) ∧
    reversing.Fresh 3 .onceDeposited ∧ programSupply.Fresh 3 .onceDeposited ∧
    (∀ report m', (run .default programSupply depositAgain (.outOfOrder 3)).Gives Memory.backend
        .onceDeposited (.ok report) m' →
      ∃ attempts m₀ ops, report.Counts .default attempts m₀ ops m') ∧
    (∃ report m' m₀ attempts ops,
      (run .default reversing depositAgain (.retry 2 1000)).Gives Memory.backend .onceDeposited
        (.ok report) m' ∧ report.duplicates = 2 ∧ report.Counts .default attempts m₀ ops m') ∧
    ∃ (c : Command) (op : Fin 2 → Operation) (order : List (Fin 2)),
      (∀ i, (race .default reversing 2 c .onceDeposited turns).Returned i (.ok (op i))) ∧
      ((Scenario.duplicate 2).report (List.ofFn op)).duplicates = 1 ∧
      ((Scenario.duplicate 2).report (List.ofFn op)).Counts .default
        (order.map (reversing.parallel 2 c)) .onceDeposited (order.map op)
        (race .default reversing 2 c .onceDeposited turns).store := by
  have hm : Memory.onceDeposited.Reached fun _ => True := Memory.reached_onceDeposited trivial
  have hshuffle : ∀ cs, (reversing.shuffle cs).Perm cs := List.reverse_perm
  have hfresh : reversing.Fresh 3 .onceDeposited := ⟨by decide, by decide⟩
  have hfresh' : programSupply.Fresh 3 .onceDeposited := ⟨by decide, by decide⟩
  obtain ⟨hreports, hraces⟩ := report_counts hm .default reversing hshuffle depositAgain
  refine ⟨hm, hshuffle, hfresh, hfresh', ?_, ?_, ?_⟩
  · intro report m' hrun
    obtain ⟨hreports, -⟩ :=
      report_counts hm .default programSupply (Main.shuffle_supply_perm _ _) depositAgain
    obtain ⟨base, m₀, commands, ops, -, -, -, -, -, hcounts⟩ :=
      hreports (.outOfOrder 3) report m' hfresh' hrun
    exact ⟨_, m₀, ops, hcounts⟩
  · have hrun : ∃ report m',
        (run .default reversing depositAgain (.retry 2 1000)).Gives Memory.backend .onceDeposited
          (.ok report) m' ∧ report.duplicates = 2 := ⟨_, _, ⟨rfl, rfl⟩, rfl⟩
    obtain ⟨report, m', hrun, hduplicates⟩ := hrun
    obtain ⟨base, m₀, commands, ops, -, -, -, -, -, hcounts⟩ :=
      hreports (.retry 2 1000) report m' hfresh hrun
    exact ⟨report, m', m₀, _, ops, hrun, hduplicates, hcounts⟩
  · have hprepare : ∃ c, (prepare reversing depositAgain).Gives Memory.backend .onceDeposited (.ok c)
        .onceDeposited ∧ ∃ op : Operation, ∀ i,
          (race .default reversing 2 c .onceDeposited turns).Returned i (.ok op) :=
      ⟨_, ⟨rfl, rfl⟩, _, Fin.forall_fin_two.2 ⟨⟨rfl, rfl⟩, ⟨rfl, rfl⟩⟩⟩
    obtain ⟨c, hprepare, op, hreturned⟩ := hprepare
    obtain ⟨-, order, -, hcounts⟩ :=
      hraces 2 c .onceDeposited turns (fun _ => op) ⟨by decide, by decide⟩ hprepare hreturned
    refine ⟨c, fun _ => op, order, hreturned, ?_, hcounts⟩
    simp [Report.duplicates, Scenario.report, distinct_eq_card]

/-- A deposit that has been booked already is not counted as a duplicate. -/
theorem delayed_uncounted :
    ∃ report m', (run .default reversing depositAgain (.delayed 1000)).Gives Memory.backend
        .onceDeposited (.ok report) m' ∧ report.requests = 1 ∧
      m'.operations.size = Memory.onceDeposited.operations.size ∧
      report.duplicates ≠
        report.requests - (m'.operations.size - Memory.onceDeposited.operations.size) :=
  ⟨_, _, ⟨rfl, rfl⟩, rfl, rfl, by decide⟩

end Daybook.Simulation
