import Daybook.Proofs.Booking.Convergence
import Daybook.Simulation

/-!
Simulations as runs of attempts. A scenario that returns a report has sent commands one after the other,
each with the stamps of its place, and all of them were answered (`Simulation.run_gives`). What it sent and
to which store is known beforehand; only the batch may come in another order than it was made in.
-/

namespace Daybook

/-- The script, run alone from a state, ends with a result in another state. -/
def Script.Gives {σ Draft α : Type} (b : Backend σ Draft) (script : Script Draft α) (s : σ) (a : α) (t : σ) :
    Prop :=
  (script.run b s).result = a ∧ (script.run b s).state = t

namespace Script

variable {σ Draft α β : Type} {b : Backend σ Draft} {s t : σ}

theorem gives_done {a a' : α} : (done a : Script Draft α).Gives b s a' t ↔ a = a' ∧ s = t :=
  Iff.rfl

theorem gives_emit {e : Event} {script : Script Draft α} {a : α} :
    (emit e script).Gives b s a t ↔ script.Gives b s a t :=
  Iff.rfl

theorem gives_call {c : Call Draft} {next : c.Reply → Script Draft α} {a : α} :
    (call c next).Gives b s a t ↔ (next (b.act c s).1).Gives b (b.act c s).2.2 a t :=
  Iff.rfl

theorem gives_bind {script : Script Draft α} {f : α → Script Draft β} {c : β} :
    (script.bind f).Gives b s c t ↔ ∃ a u, script.Gives b s a u ∧ (f a).Gives b u c t := by
  simp only [Gives, run_bind]
  constructor
  · exact fun h => ⟨_, _, ⟨rfl, rfl⟩, h⟩
  · rintro ⟨_, _, ⟨rfl, rfl⟩, h⟩
    exact h

end Script

namespace Simulation

variable {σ Draft α β : Type} {b : Backend σ Draft} {s t : σ}

/-- A part that goes on has a result when both parts have one. -/
theorem proceed_gives {part : Part Draft α} {next : α → Part Draft β} {c : β} :
    (proceed part next).Gives b s (.ok c) t ↔
      ∃ a u, part.Gives b s (.ok a) u ∧ (next a).Gives b u (.ok c) t := by
  rw [proceed, Script.gives_bind]
  constructor
  · rintro ⟨r, u, hpart, hnext⟩
    cases r with
    | error e => cases hnext.1
    | ok a => exact ⟨a, u, hpart, hnext⟩
  · rintro ⟨a, u, hpart, hnext⟩
    exact ⟨.ok a, u, hpart, hnext⟩

/-! ### Preparation -/

/-- The reference of the operation, made up if it is left out. -/
def Supply.referenceFor (supply : Supply) (r : Request) : String :=
  r.reference.getD (ownReference supply.reference)

/-- The movement of a request that gives the accounts for it. -/
def Request.movement? (r : Request) : Option Movement :=
  match r.kind with
  | .deposit => r.targetAccount.map .deposit
  | .withdrawal => r.sourceAccount.map .withdrawal
  | .transfer => do return .transfer (← r.sourceAccount) (← r.targetAccount)

/-- The command of a simulation for a movement. -/
def commandFor (reference : String) (amount : Decimal) : Movement → Command
  | .deposit target => (Command.deposit reference target amount).withSource source
  | .withdrawal account => (Command.withdrawal reference account amount).withSource source
  | .transfer account target => (Command.transfer reference account target amount).withSource source

variable {supply : Supply} {r : Request} {base : Command} {m m' : Memory}

/-- Nothing is done to prepare a request that gives the accounts. -/
theorem prepare_given {mv : Movement} (h : r.movement? = some mv) :
    (prepare supply r : Part Draft Command) =
      .done (.ok (commandFor (supply.referenceFor r) r.amount mv)) := by
  unfold Request.movement? at h
  unfold prepare
  cases hkind : r.kind with
  | deposit =>
      rw [hkind] at h
      obtain ⟨target, htarget, rfl⟩ := Option.map_eq_some_iff.1 h
      rw [htarget]
      rfl
  | withdrawal =>
      rw [hkind] at h
      obtain ⟨account, haccount, rfl⟩ := Option.map_eq_some_iff.1 h
      rw [haccount]
      rfl
  | transfer =>
      rw [hkind] at h
      obtain ⟨account, haccount, h⟩ := Option.bind_eq_some_iff.1 h
      obtain ⟨target, htarget, h⟩ := Option.bind_eq_some_iff.1 h
      cases h
      rw [haccount, htarget]
      rfl

theorem openAccount_gives {stamp : Stamp} {id : AccountId}
    (h : (openAccount stamp).Gives Memory.backend m (.ok id) m') :
    m' = m.edit (.insertAccount ⟨⟨stamp.id⟩, .user, stamp.time⟩) := by
  rw [openAccount, Script.gives_call] at h
  cases hreply : (Memory.backend.act (.insertAccount ⟨⟨stamp.id⟩, .user, stamp.time⟩) m).1 with
  | error e =>
      rw [hreply] at h
      cases (Script.gives_done.1 h).1
  | ok u =>
      rw [hreply] at h
      exact (Script.gives_done.1 (Script.gives_emit.1 h)).2.symm

theorem accountOrOpen_keeps (allowed : Settings → Prop) {given : Option AccountId} {stamp : Stamp}
    {id : AccountId} (h : (accountOrOpen given stamp).Gives Memory.backend m (.ok id) m') :
    m.SameBooks m' ∧ (m.Reached allowed → m'.Reached allowed) := by
  cases given with
  | some given =>
      cases (Script.gives_done.1 h).2
      exact ⟨.refl m, fun hm => hm⟩
  | none =>
      rw [openAccount_gives h]
      exact ⟨Memory.sameBooks_insertAccount m _, fun hm => hm.edit _⟩

/-- The accounts that are opened are all that preparing changes. -/
theorem prepare_keeps (allowed : Settings → Prop)
    (h : (prepare supply r).Gives Memory.backend m (.ok base) m') :
    m.SameBooks m' ∧ (m.Reached allowed → m'.Reached allowed) := by
  unfold prepare at h
  cases hkind : r.kind with
  | deposit =>
      rw [hkind, proceed_gives] at h
      obtain ⟨target, u, hopened, hready⟩ := h
      cases (Script.gives_done.1 hready).2
      exact accountOrOpen_keeps allowed hopened
  | withdrawal =>
      rw [hkind, proceed_gives] at h
      obtain ⟨account, u, hopened, hready⟩ := h
      cases (Script.gives_done.1 hready).2
      exact accountOrOpen_keeps allowed hopened
  | transfer =>
      rw [hkind, proceed_gives] at h
      obtain ⟨account, u, hopened, h⟩ := h
      obtain ⟨target, v, hopened', hready⟩ := proceed_gives.1 h
      cases (Script.gives_done.1 hready).2
      obtain ⟨hsame, hreached⟩ := accountOrOpen_keeps allowed hopened
      obtain ⟨hsame', hreached'⟩ := accountOrOpen_keeps allowed hopened'
      exact ⟨hsame.trans hsame', fun hm => hreached' (hreached hm)⟩

/-! ### Submissions -/

/-- The attempt with the stamps of that number. -/
def Supply.attempt (supply : Supply) (n : Nat) (c : Command) : Attempt :=
  ⟨supply.booking n, c, []⟩

/-- The attempts with commands that are sent one after the other. -/
def Supply.attempts (supply : Supply) (cs : List Command) : List Attempt :=
  cs.mapIdx supply.attempt

variable {settings : Settings} {supply : Supply} {m m' : Memory} {c : Command} {op : Operation}

/-- A part that does nothing but the attempt. -/
def Submits (settings : Settings) (part : Part MemoryDraft Operation) (a : Attempt) : Prop :=
  ∀ m op m', part.Gives Memory.backend m (.ok op) m' ↔ a.go settings m = (.ok op, m')

theorem submits_submit (settings : Settings) (supply : Supply) (n : Nat) (c : Command) :
    Submits settings (submit settings supply n c) (supply.attempt n c) := by
  intro m op m'
  rw [submit, Script.gives_bind, Attempt.go_eq_run rfl, Prod.mk.injEq]
  constructor
  · rintro ⟨r, u, hrun, hdone⟩
    obtain ⟨hresult, rfl⟩ := Script.gives_done.1 hdone
    cases mapError_eq_ok_iff.1 hresult
    exact hrun
  · intro h
    exact ⟨.ok op, m', h, rfl, rfl⟩

theorem Submits.emit {part : Part MemoryDraft Operation} {a : Attempt} (h : Submits settings part a)
    (e : Event) : Submits settings (.emit e part) a :=
  h

/-- Such a part alone is a run of one attempt. -/
theorem Submits.gives_iff {part : Part MemoryDraft Operation} {a : Attempt} (h : Submits settings part a) :
    part.Gives Memory.backend m (.ok op) m' ↔
      Booking.answers settings [a] m = [.ok op] ∧ Booking.after settings [a] m = m' := by
  rw [h m op m', Prod.ext_iff, Booking.answers, Booking.answers, List.cons.injEq]
  exact and_congr_left fun _ => (and_iff_left rfl).symm

variable {parts : List (Part MemoryDraft Operation)} {attempts : List Attempt} {ops : List Operation}

/-- Parts that run in turn have a result when all attempts are answered. -/
theorem runInTurn_gives (h : List.Forall₂ (Submits settings) parts attempts) :
    (runInTurn parts).Gives Memory.backend m (.ok ops) m' ↔
      Booking.answers settings attempts m = ops.map .ok ∧ Booking.after settings attempts m = m' := by
  induction h generalizing m ops with
  | nil => cases ops <;> simp [runInTurn, Script.gives_done, Booking.answers, Booking.after]
  | @cons part a parts attempts hpart _ ih =>
      simp only [runInTurn, proceed_gives, Script.gives_done, Booking.answers_cons_iff, Booking.after_cons]
      constructor
      · rintro ⟨op, u, hfirst, rest, v, hrest, hops, rfl⟩
        have hgo := (hpart m op u).1 hfirst
        obtain ⟨hanswers, hafter⟩ := ih.1 hrest
        rw [hgo]
        exact ⟨⟨op, rest, (Except.ok.inj hops).symm, rfl, hanswers⟩, hafter⟩
      · rintro ⟨⟨op, rest, rfl, hop, hanswers⟩, hafter⟩
        have hgo : a.go settings m = (.ok op, (a.go settings m).2) := Prod.ext hop rfl
        exact ⟨op, _, (hpart m op _).2 hgo, rest, m', ih.2 ⟨hanswers, hafter⟩, rfl, rfl⟩

/-- Parts that all run have a result under the same condition. -/
theorem runAll_gives (h : List.Forall₂ (Submits settings) parts attempts) :
    (runAll parts).Gives Memory.backend m (.ok ops) m' ↔
      Booking.answers settings attempts m = ops.map .ok ∧ Booking.after settings attempts m = m' := by
  rw [← runInTurn_gives h]
  clear h
  induction parts generalizing m ops with
  | nil => exact Iff.rfl
  | cons part parts ih =>
      simp only [runAll, runInTurn, proceed_gives, Script.gives_bind, Script.gives_done]
      constructor
      · rintro ⟨first, u, hpart, others, v, hrest, hboth, rfl⟩
        cases first with
        | error e => cases hboth
        | ok op =>
            cases others with
            | error e => cases hboth
            | ok rest => exact ⟨op, u, hpart, rest, v, ih.1 hrest, hboth, rfl⟩
      · rintro ⟨op, u, hpart, rest, v, hrest, hops, rfl⟩
        exact ⟨.ok op, u, hpart, .ok rest, v, ih.2 hrest, hops, rfl⟩

/-! ### Scenarios -/

namespace Scenario

/-- How many submissions a scenario makes. -/
def submissions : Scenario → Nat
  | .duplicate parallel => parallel
  | .retry retries _ => retries + 1
  | .outOfOrder count => count
  | .delayed _ => 1

/-- The commands that a scenario sends, in order, unless an amount is too great. -/
def commands (supply : Supply) (base : Command) : Scenario → Option (List Command)
  | .duplicate parallel => some (List.replicate parallel base)
  | .retry retries _ => some (List.replicate (retries + 1) base)
  | .outOfOrder count => (batch base count).map supply.shuffle
  | .delayed _ => some [base]

/-- The report on a scenario whose submissions are answered with the operations. -/
def report (ops : List Operation) : Scenario → Report
  | .duplicate parallel => ⟨parallel, distinct ops,
      "Idempotency working! " ++ toString parallel ++ " parallel requests resulted in " ++
        toString (distinct ops) ++ " operation(s)", ops.take 1⟩
  | .retry retries _ => ⟨retries + 1, distinct ops,
      "Retry tolerance working! " ++ toString (retries + 1) ++ " webhook retries resulted in " ++
        toString (distinct ops) ++ " operation(s)", ops.take 1⟩
  | .outOfOrder count => ⟨count, distinct ops,
      "Out-of-order tolerance working! " ++
        "Operations processed in random order with consistent results", ops⟩
  | .delayed delay => ⟨1, 1,
      "Delay tolerance working! Operation processed successfully after " ++ toString delay ++
        "ms delay", ops⟩

end Scenario

theorem Supply.attempts_replicate (supply : Supply) (n : Nat) (c : Command) :
    supply.attempts (List.replicate n c) = (List.range n).map (supply.attempt · c) := by
  apply List.ext_getElem <;> simp [Supply.attempts]

variable {scenario : Scenario} {report : Report}

/-- To send and then to report gives the report on the answers. -/
theorem report_gives {sending : Part MemoryDraft (List Operation)}
    {next : List Operation → Part MemoryDraft Report}
    (hsending : ∀ {ops u}, sending.Gives Memory.backend m (.ok ops) u ↔
      Booking.answers settings attempts m = ops.map .ok ∧ Booking.after settings attempts m = u)
    (hnext : ∀ {ops u}, (next ops).Gives Memory.backend u (.ok report) m' ↔
      scenario.report ops = report ∧ u = m') :
    (proceed sending next).Gives Memory.backend m (.ok report) m' ↔
      ∃ ops, Booking.answers settings attempts m = ops.map .ok ∧
        Booking.after settings attempts m = m' ∧ scenario.report ops = report := by
  rw [proceed_gives]
  constructor
  · rintro ⟨ops, u, hsent, hreported⟩
    obtain ⟨hanswers, hafter⟩ := hsending.1 hsent
    obtain ⟨hreport, rfl⟩ := hnext.1 hreported
    exact ⟨ops, hanswers, hafter, hreport⟩
  · rintro ⟨ops, hanswers, hafter, hreport⟩
    exact ⟨ops, m', hsending.2 ⟨hanswers, hafter⟩, hnext.2 ⟨hreport, rfl⟩⟩

theorem completed_gives {m m' : Memory} {e : Event} {written : Report} :
    (Script.emit e (.done (.ok written)) : Part MemoryDraft Report).Gives Memory.backend m (.ok report) m' ↔
      written = report ∧ m = m' := by
  rw [Script.gives_emit, Script.gives_done, Except.ok.injEq]

/-- **A scenario prepares a command, sends what is made of it, and reports on the answers.** There is a
report exactly if all submissions are answered with an operation. -/
theorem run_gives (settings : Settings) (supply : Supply) (r : Request) (scenario : Scenario) :
    (run settings supply r scenario).Gives Memory.backend m (.ok report) m' ↔
      ∃ base m₀, (prepare supply r).Gives Memory.backend m (.ok base) m₀ ∧
      ∃ commands, scenario.commands supply base = some commands ∧
      ∃ ops, Booking.answers settings (supply.attempts commands) m₀ = ops.map .ok ∧
        Booking.after settings (supply.attempts commands) m₀ = m' ∧ scenario.report ops = report := by
  cases scenario with
  | duplicate parallel =>
      rw [run, duplicate, proceed_gives]
      refine exists₂_congr fun c m₀ => and_congr_right fun _ => ?_
      simp only [Scenario.commands, Option.some.injEq, exists_eq_left', Script.gives_emit]
      refine report_gives (runAll_gives ?_) completed_gives
      rw [Supply.attempts_replicate, List.forall₂_map_left_iff, List.forall₂_map_right_iff, List.forall₂_same]
      exact fun n _ => (submits_submit settings supply n c).emit _
  | retry retries delay =>
      rw [run, retry, proceed_gives]
      refine exists₂_congr fun c m₀ => and_congr_right fun _ => ?_
      simp only [Scenario.commands, Option.some.injEq, exists_eq_left', Script.gives_emit]
      refine report_gives (runInTurn_gives ?_) completed_gives
      rw [Supply.attempts_replicate, List.range_succ_eq_map, List.map_cons, List.map_map]
      refine .cons (submits_submit settings supply 0 c) ?_
      rw [List.forall₂_map_left_iff, List.forall₂_map_right_iff, List.forall₂_same]
      exact fun n _ => (submits_submit settings supply (n + 1) c).emit _
  | outOfOrder count =>
      rw [run, outOfOrder, proceed_gives]
      refine exists₂_congr fun base m₀ => and_congr_right fun _ => ?_
      rw [Script.gives_emit]
      cases hbatch : batch base count with
      | none => simp [Scenario.commands, hbatch, Script.gives_done]
      | some commands =>
          simp only [Scenario.commands, hbatch, Option.map_some, Option.some.injEq, exists_eq_left']
          refine report_gives (runInTurn_gives ?_) completed_gives
          rw [Supply.attempts, List.mapIdx_eq_zipIdx_map, List.mapIdx_eq_zipIdx_map,
            List.forall₂_map_left_iff, List.forall₂_map_right_iff, List.forall₂_same]
          exact fun c _ => (submits_submit settings supply c.2 c.1).emit _
  | delayed delay =>
      rw [run, delayed, proceed_gives]
      refine exists₂_congr fun c m₀ => and_congr_right fun _ => ?_
      simp only [Scenario.commands, Option.some.injEq, exists_eq_left']
      rw [Script.gives_emit, proceed_gives]
      have hsubmits := submits_submit settings supply 0 c
      constructor
      · rintro ⟨op, u, hsubmit, hdone⟩
        obtain ⟨hreport, rfl⟩ := completed_gives.1 hdone
        obtain ⟨hanswers, hafter⟩ := hsubmits.gives_iff.1 hsubmit
        exact ⟨[op], hanswers, hafter, hreport⟩
      · rintro ⟨ops, hanswers, hafter, hreport⟩
        have hlength := Booking.length_answers settings (supply.attempts [c]) m₀
        rw [hanswers, List.length_map] at hlength
        obtain ⟨op, rfl⟩ := List.length_eq_one_iff.1 hlength
        exact ⟨op, m', hsubmits.gives_iff.2 ⟨hanswers, hafter⟩, completed_gives.2 ⟨hreport, rfl⟩⟩

/-! ### Stamps -/

/-- The id that the submission of that number has for its operation. -/
def Supply.operationId (supply : Supply) (n : Nat) : OperationId :=
  ⟨(supply.booking n).operation.id⟩

/-- The first stamps for submissions have different ids, and none that a stored operation has. -/
structure Supply.Fresh (supply : Supply) (n : Nat) (m : Memory) : Prop where
  distinct : ∀ i < n, ∀ j < n, supply.operationId i = supply.operationId j → i = j
  unused : ∀ i < n, m.operations.get? (supply.operationId i) = none

/-- Attempts with stamps of different places are fresh. -/
theorem Supply.Fresh.of_places {n : Nat} (h : supply.Fresh n m) {places : List Nat}
    (hnodup : places.Nodup) (hplaces : ∀ i ∈ places, i < n)
    (hids : attempts.map (·.operationId) = places.map supply.operationId) : Booking.Fresh attempts m := by
  refine ⟨?_, fun {a} ha => ?_⟩
  · rw [hids]
    exact hnodup.map_on fun i hi j hj => h.distinct i (hplaces i hi) j (hplaces j hj)
  · have hid : a.operationId ∈ places.map supply.operationId := by
      rw [← hids]
      exact List.mem_map_of_mem ha
    obtain ⟨i, hi, hsame⟩ := List.mem_map.1 hid
    rw [← hsame]
    exact h.unused i (hplaces i hi)

theorem Supply.Fresh.of_commands {n : Nat} (h : supply.Fresh n m) {commands : List Command}
    (hlength : commands.length = n) : Booking.Fresh (supply.attempts commands) m := by
  have hnodup : (List.range n).Nodup := List.nodup_range
  refine h.of_places hnodup (fun i hi => List.mem_range.1 hi) ?_
  apply List.ext_getElem <;> simp [attempts, attempt, Attempt.operationId, operationId, hlength]

theorem Supply.Fresh.of_sameBooks {n : Nat} (h : supply.Fresh n m) (hsame : m.SameBooks m') :
    supply.Fresh n m' := by
  refine ⟨h.distinct, fun i hi => ?_⟩
  rw [hsame.operations]
  exact h.unused i hi

/-- A shuffle loses no commands and makes none up. -/
theorem Scenario.length_commands {base : Command} {commands : List Command}
    (hshuffle : ∀ cs, (supply.shuffle cs).Perm cs)
    (h : scenario.commands supply base = some commands) : commands.length = scenario.submissions := by
  cases scenario with
  | outOfOrder count =>
      obtain ⟨unshuffled, hbatch, rfl⟩ := Option.map_eq_some_iff.1 h
      rw [batch, mapM_eq_some_iff] at hbatch
      rw [(hshuffle unshuffled).length_eq, ← hbatch.length_eq, List.length_range, submissions]
  | _ =>
      cases h
      simp [submissions]

end Simulation
end Daybook
