import Daybook.Proofs.Memory.Unit
import Daybook.Proofs.Session.References
import Mathlib.Logic.Function.Basic

/-!
Isolation and atomicity of drafts. What everybody sees and what each draft holds back is told by the
steps that succeeded, in their order: a direct call does what it is for, a write goes into its draft,
and a commit brings in all that its draft has collected (`Outlook.note`). Nothing else leaves a trace
(`Session.drafts_isolated`): a step that fails changes neither what is seen nor any draft, so that a
refused draft can be committed later, and a draft is taken at most once.
-/

namespace Daybook

/-- What a write that succeeds makes of a draft. -/
def MemoryDraft.record (d : MemoryDraft) : Write → MemoryDraft
  | .insertOperation op => { d with operations := d.operations ++ [op] }
  | .insertEntries es => { d with entries := d.entries ++ es }
  | .updateOperation op =>
    if d.operations.any (·.id == op.id) then
      { d with operations := Memory.replaceFirst (·.id == op.id) op d.operations }
    else { d with operations := d.operations ++ [op] }
  | .commit => ⟨[], [], true⟩

/-- What everybody sees, and what each draft holds back. -/
structure Outlook where
  store : Memory
  held : String → Option MemoryDraft

namespace Outlook

def empty : Outlook :=
  ⟨.empty, fun _ => none⟩

def hold (o : Outlook) (name : String) (d? : Option MemoryDraft) : Outlook :=
  { o with held := Function.update o.held name d? }

/-- The outlook after a step that succeeded. Only direct calls and commits are seen. -/
def note (o : Outlook) : Session.Step → Outlook
  | .ask c _ => { o with store := o.store.perform c }
  | .openDraft name => o.hold name (some .empty)
  | .write name .commit =>
    match o.held name with
    | some d => { o.hold name (some (d.record .commit)) with store := o.store.apply d }
    | none => o
  | .write name w => o.hold name ((o.held name).map (·.record w))
  | .dropDraft name => o.hold name none
  | .arm _ => o

end Outlook

namespace Session

variable {s : Session Memory MemoryDraft}

def outlook (s : Session Memory MemoryDraft) : Outlook :=
  ⟨s.store.store, fun name => s.drafts.lookup name⟩

def succeeds (s : Session Memory MemoryDraft) : Step → Bool
  | .ask c _ => (s.ask c).result.isOk
  | .openDraft name => (s.openDraft name).result.isOk
  | .write name w => (s.write? name w.script).any (·.result.isOk)
  | .dropDraft _ => true
  | .arm _ => true

/-- The steps that succeed, each from where the ones before it led. -/
def succeeded (s : Session Memory MemoryDraft) : List Step → List Step
  | [] => []
  | step :: steps =>
    if s.succeeds step then step :: (s.take step).succeeded steps else (s.take step).succeeded steps

/-- The draft that a step opens, writes or drops. -/
def Step.name? : Step → Option String
  | .ask _ _ => none
  | .openDraft name => some name
  | .write name _ => some name
  | .dropDraft name => some name
  | .arm _ => none

/-! ### Drafts under names -/

theorem lookup_cons {α : Type} (draft : String × α) (drafts : List (String × α)) :
    (fun name => (draft :: drafts).lookup name) =
      Function.update (fun name => drafts.lookup name) draft.1 (some draft.2) := by
  funext name
  rw [List.lookup_cons, Function.update_apply]
  by_cases hname : name = draft.1
  · rw [if_pos hname, beq_iff_eq.2 hname]
  · rw [if_neg hname, beq_false_of_ne hname]

theorem lookup_filter {α : Type} (drafts : List (String × α)) (name : String) :
    (fun name' => (drafts.filter (·.1 != name)).lookup name') =
      Function.update (fun name' => drafts.lookup name') name none := by
  induction drafts with
  | nil => exact (Function.update_eq_self name fun _ => none).symm
  | cons draft drafts ih =>
      by_cases hdraft : draft.1 = name
      · rw [List.filter_cons_of_neg (by simpa using hdraft), ih, lookup_cons, hdraft,
          Function.update_idem]
      · rw [List.filter_cons_of_pos (by simpa using hdraft), lookup_cons, ih, lookup_cons,
          Function.update_comm hdraft]

theorem outlook_keepDraft (s : Session Memory MemoryDraft) (name : String) (d : MemoryDraft) :
    (s.keepDraft name d).outlook = s.outlook.hold name (some d) := by
  rw [outlook, keepDraft, lookup_cons, lookup_filter, Function.update_idem]
  rfl

theorem outlook_dropDraft (s : Session Memory MemoryDraft) (name : String) :
    (s.dropDraft name).outlook = s.outlook.hold name none := by
  rw [outlook, dropDraft, lookup_filter]
  rfl

/-! ### One step -/

theorem ask_answers (hs : s.backend = Memory.backend) (c : Call MemoryDraft) :
    Memory.Answers True c s.store.store (s.ask c).result (s.ask c).state.store.store := by
  have hact : (s.ask c).result = (Memory.backend.withFaults.act c s.store).1 ∧
      (s.ask c).state.store = (Memory.backend.withFaults.act c s.store).2.2 := by
    rw [← hs]
    exact ⟨rfl, rfl⟩
  rw [hact.1, hact.2]
  exact Memory.answers_withFaults c s.store

/-- A call that fails changes nothing, and one that succeeds does what it is for. -/
theorem ask_cases (hs : s.backend = Memory.backend) (c : Call MemoryDraft) :
    (s.ask c).result.isOk = false ∧ (s.ask c).state.outlook = s.outlook ∨
      (s.ask c).result.isOk = true ∧
        (s.ask c).state.outlook = { s.outlook with store := s.store.store.perform c } := by
  have hstore : (s.ask c).result.isOk = false ∧ (s.ask c).state.store.store = s.store.store ∨
      (s.ask c).result.isOk = true ∧ (s.ask c).state.store.store = s.store.store.perform c := by
    have hanswers := ask_answers hs c
    generalize (s.ask c).result = reply, (s.ask c).state.store.store = m' at hanswers ⊢
    cases hanswers with
    | heard => exact s.store.store.answer_cases c
    | failed _ _ e h => exact Or.inl ⟨rfl, rfl⟩
    | missed r _ h => exact Or.inr ⟨rfl, rfl⟩
  rcases hstore with ⟨hfails, hsame⟩ | ⟨hsucceeds, hchanged⟩
  · exact Or.inl ⟨hfails, congrArg (Outlook.mk · _) hsame⟩
  · exact Or.inr ⟨hsucceeds, congrArg (Outlook.mk · _) hchanged⟩

theorem answer_eq_ok (hs : s.backend = Memory.backend) {c : Call MemoryDraft} {a : c.Answer}
    (hc : ∀ r, c ≠ .findByReference r) (h : (s.ask c).result = .ok a) :
    (s.store.store.answer c).1 = .ok a := by
  have hanswers := ask_answers hs c
  generalize (s.ask c).result = reply, (s.ask c).state.store.store = m' at hanswers h
  cases hanswers with
  | heard => exact h
  | failed _ _ e h' => cases h
  | missed r _ h' => exact absurd rfl (hc r)

theorem accepts_of_answer {m : Memory} {d d' : MemoryDraft} (h : (m.answer (.commit d)).1 = .ok d') :
    m.Accepts d ∧ d' = ⟨[], [], true⟩ := by
  have hchanged : (m.changed (m.commit d)).1 = .ok d' := h
  cases hcommit : m.commit d with
  | error e =>
      rw [hcommit] at hchanged
      cases hchanged
  | ok result =>
      obtain ⟨haccepts, rfl⟩ := Memory.commit_eq_ok_iff.1 hcommit
      rw [hcommit] at hchanged
      cases hchanged
      exact ⟨haccepts, rfl⟩

/-- A write that succeeds puts into the draft what it should. -/
theorem result_script (hs : s.backend = Memory.backend) {w : Write} {d d' : MemoryDraft}
    (h : (s.run (w.script d)).result = .ok d') : d' = d.record w := by
  cases w with
  | insertOperation op =>
      have hreply := answer_eq_ok hs (c := .insertOperation d op) (by simp) h
      exact (Memory.insertOperation_eq_ok_iff.1 hreply).2.2
  | insertEntries es =>
      have hreply := answer_eq_ok hs (c := .insertEntries d es) (by simp) h
      cases hreply
      rfl
  | updateOperation op =>
      have hreply := answer_eq_ok hs (c := .updateOperation d op) (by simp) h
      rcases Memory.updateOperation_eq_ok hreply with ⟨hpending, rfl⟩ | ⟨hnew, -, rfl⟩
      · simp [MemoryDraft.record, hpending]
      · simp [MemoryDraft.record, hnew]
  | commit =>
      have hreply := answer_eq_ok hs (c := .commit d) (by simp) h
      exact (accepts_of_answer hreply).2

/-- A call that answers with a draft keeps it under the name if it succeeds. -/
theorem askDraft_cases (hs : s.backend = Memory.backend) (name : String) (c : Call MemoryDraft)
    (script : Script MemoryDraft (Except StoreError MemoryDraft))
    (hstate : (s.run script).state = (s.ask c).state)
    (hresult : (s.run script).result.isOk = (s.ask c).result.isOk) :
    (s.askDraft name script).result.isOk = false ∧ (s.askDraft name script).state.outlook = s.outlook ∨
      (s.askDraft name script).result.isOk = true ∧ ∃ d, (s.run script).result = .ok d ∧
        (s.askDraft name script).state.outlook =
          { s.outlook.hold name (some d) with store := s.store.store.perform c } := by
  rw [askDraft]
  rcases ask_cases hs c with ⟨hfails, hsame⟩ | ⟨hsucceeds, hchanged⟩
  · rw [hfails] at hresult
    rw [← hstate] at hsame
    cases hreply : (s.run script).result with
    | error e => exact Or.inl ⟨rfl, hsame⟩
    | ok d =>
        rw [hreply] at hresult
        cases hresult
  · rw [hsucceeds] at hresult
    rw [← hstate] at hchanged
    cases hreply : (s.run script).result with
    | error e =>
        rw [hreply] at hresult
        cases hresult
    | ok d =>
        refine Or.inr ⟨rfl, d, rfl, ?_⟩
        show ((s.run script).state.keepDraft name d).outlook = _
        rw [outlook_keepDraft, hchanged]
        rfl

theorem note_write {o : Outlook} {name : String} {d : MemoryDraft} (hd : o.held name = some d)
    (w : Write) :
    o.note (.write name w) =
      { o.hold name (some (d.record w)) with store := o.store.perform (w.call d) } := by
  cases w <;> simp only [Outlook.note, hd] <;> rfl

/-- **A step that fails leaves no trace, and one that succeeds leaves its note.** -/
theorem take_cases (hs : s.backend = Memory.backend) (step : Step) :
    s.succeeds step = false ∧ (s.take step).outlook = s.outlook ∨
      s.succeeds step = true ∧ (s.take step).outlook = s.outlook.note step := by
  cases step with
  | ask c plain => exact ask_cases hs c
  | openDraft name =>
      rcases askDraft_cases hs name .begin (Script.ask .begin) rfl rfl with
        hfails | ⟨hsucceeds, d, hd, hopened⟩
      · exact Or.inl hfails
      · have hreply := answer_eq_ok hs (c := .begin) (by simp) hd
        cases hreply
        exact Or.inr ⟨hsucceeds, hopened⟩
  | write name w =>
      cases hname : s.drafts.lookup name with
      | none =>
          refine Or.inl ⟨?_, ?_⟩
          · rw [succeeds, write?, hname]
            rfl
          · rw [take, write?, hname]
            rfl
      | some d =>
          have hok : (s.run (w.script d)).result.isOk = (s.ask (w.call d)).result.isOk := by
            cases w <;> rfl
          have hwrite : s.write? name w.script = some (s.askDraft name (w.script d)) := by
            rw [write?, hname]
            rfl
          rw [succeeds, take, hwrite]
          rcases askDraft_cases hs name (w.call d) (w.script d) (run_script w d) hok with
            hfails | ⟨hsucceeds, d', hd', hwritten⟩
          · exact Or.inl hfails
          · refine Or.inr ⟨hsucceeds, hwritten.trans ?_⟩
            rw [result_script hs hd', note_write (o := s.outlook) hname]
            rfl
  | dropDraft name => exact Or.inr ⟨rfl, outlook_dropDraft s name⟩
  | arm f => exact Or.inr ⟨rfl, rfl⟩

/-- A commit that succeeds was accepted and brings in the whole draft. -/
theorem takes_of_succeeds (hs : s.backend = Memory.backend) {name : String}
    (h : s.succeeds (.write name .commit) = true) :
    ∃ d, s.outlook.held name = some d ∧ s.store.store.Accepts d ∧
      s.store.store.Takes d (s.take (.write name .commit)).store.store ∧
      (s.take (.write name .commit)).outlook.held name = some ⟨[], [], true⟩ := by
  rcases take_cases hs (.write name .commit) with ⟨hfails, -⟩ | ⟨-, hnoted⟩
  · rw [hfails] at h
    cases h
  cases hname : s.drafts.lookup name with
  | none =>
      rw [succeeds, write?, hname] at h
      cases h
  | some d =>
      have hd : s.outlook.held name = some d := hname
      rw [note_write hd] at hnoted
      have hstore : (s.take (.write name .commit)).store.store = s.store.store.apply d :=
        congrArg Outlook.store hnoted
      refine ⟨d, hd, ?_, ?_, ?_⟩
      · have hok : (s.askDraft name ((Write.commit).script d)).result.isOk = true := by
          rw [succeeds, write?, hname] at h
          exact h
        rcases askDraft_cases hs name (.commit d) (Write.commit.script d) rfl rfl with
          ⟨hfails, -⟩ | ⟨-, d', hd', -⟩
        · rw [hfails] at hok
          cases hok
        · exact (accepts_of_answer (answer_eq_ok hs (c := .commit d) (by simp) hd')).1
      · rw [hstore]
        exact Memory.takes_apply _ d
      · rw [hnoted]
        exact Function.update_self ..

/-! ### Runs -/

/-- What is seen and what is held back is told by the steps that succeeded. -/
theorem outlook_follow (hs : s.backend = Memory.backend) (steps : List Step) :
    (s.follow steps).outlook = (s.succeeded steps).foldl Outlook.note s.outlook := by
  induction steps generalizing s with
  | nil => rfl
  | cons step steps ih =>
      have hrest := ih ((s.backend_take step).trans hs)
      show ((s.take step).follow steps).outlook = _
      rw [hrest, succeeded]
      rcases take_cases hs step with ⟨hfails, hsame⟩ | ⟨hsucceeds, hnoted⟩
      · rw [if_neg (by simp [hfails]), hsame]
      · rw [if_pos hsucceeds, hnoted, List.foldl_cons]

@[simp]
theorem held_hold_self (o : Outlook) (name : String) (d? : Option MemoryDraft) :
    (o.hold name d?).held name = d? :=
  Function.update_self ..

theorem held_hold_of_ne (o : Outlook) {name name' : String} (h : name ≠ name') (d? : Option MemoryDraft) :
    (o.hold name' d?).held name = o.held name :=
  Function.update_of_ne h ..

/-- What is held under a name was just put there, or was held before. -/
theorem held_hold_cases {o : Outlook} {name name' : String} {d? : Option MemoryDraft} {d : MemoryDraft}
    (h : (o.hold name d?).held name' = some d) :
    name' = name ∧ d? = some d ∨ name' ≠ name ∧ o.held name' = some d := by
  by_cases hname : name' = name
  · rw [hname, held_hold_self] at h
    exact Or.inl ⟨hname, h⟩
  · rw [held_hold_of_ne o hname] at h
    exact Or.inr ⟨hname, h⟩

/-- A step only touches the draft that it names. -/
theorem held_note_of_ne (o : Outlook) {step : Step} {name : String} (h : step.name? ≠ some name) :
    (o.note step).held name = o.held name := by
  cases step with
  | write name' w =>
      have hne : name ≠ name' := fun hname => h (congrArg some hname.symm)
      cases w with
      | commit =>
          rw [Outlook.note]
          split
          · exact held_hold_of_ne o hne _
          · rfl
      | _ => exact held_hold_of_ne o hne _
  | openDraft name' => exact held_hold_of_ne o (fun hname => h (congrArg some hname.symm)) _
  | dropDraft name' => exact held_hold_of_ne o (fun hname => h (congrArg some hname.symm)) _
  | _ => rfl

/-- A step that succeeds opens the draft that it names, drops it, or writes to it. -/
theorem held_note (o : Outlook) (step : Step) (name : String) :
    step = .openDraft name ∨ ∀ d, (o.note step).held name = some d →
      o.held name = some d ∨ ∃ d' w, o.held name = some d' ∧ d = d'.record w := by
  by_cases hname : step.name? = some name
  swap
  · exact Or.inr fun d hd => Or.inl ((held_note_of_ne o hname).symm.trans hd)
  cases step with
  | openDraft name' =>
      cases hname
      exact Or.inl rfl
  | dropDraft name' =>
      cases hname
      refine Or.inr fun d hd => ?_
      rw [Outlook.note, held_hold_self] at hd
      cases hd
  | write name' w =>
      cases hname
      refine Or.inr fun d hd => ?_
      cases hheld : o.held name with
      | none =>
          cases w <;> simp [Outlook.note, hheld] at hd
      | some d' =>
          rw [note_write hheld] at hd
          cases (held_hold_self o name _).symm.trans hd
          exact Or.inr ⟨d', w, rfl, rfl⟩
  | _ => cases hname

theorem held_take_of_ne (hs : s.backend = Memory.backend) {step : Step} {name : String}
    (h : step.name? ≠ some name) : (s.take step).outlook.held name = s.outlook.held name := by
  rcases take_cases hs step with ⟨-, hsame⟩ | ⟨-, hnoted⟩
  · rw [hsame]
  · rw [hnoted, held_note_of_ne _ h]

theorem held_follow (hs : s.backend = Memory.backend) {steps : List Step} {name : String}
    (h : ∀ step ∈ steps, step.name? ≠ some name) :
    (s.follow steps).outlook.held name = s.outlook.held name := by
  induction steps generalizing s with
  | nil => rfl
  | cons step steps ih =>
      obtain ⟨hstep, hrest⟩ := List.forall_mem_cons.1 h
      exact (ih ((s.backend_take step).trans hs) hrest).trans (held_take_of_ne hs hstep)

/-- Direct calls and commits apart, no step is seen. -/
theorem store_take_of_unseen (hs : s.backend = Memory.backend) {step : Step}
    (hask : ∀ c plain, step ≠ .ask c plain) (hcommit : ∀ name, step ≠ .write name .commit) :
    (s.take step).store.store = s.store.store := by
  have hseen : (s.take step).outlook.store = s.outlook.store := by
    rcases take_cases hs step with ⟨-, hsame⟩ | ⟨-, hnoted⟩
    · rw [hsame]
    · rw [hnoted]
      cases step with
      | ask c plain => exact absurd rfl (hask c plain)
      | write name w =>
          cases w with
          | commit => exact absurd rfl (hcommit name)
          | _ => rfl
      | _ => rfl
  exact hseen

/-- There is no draft under the name, or one that has been committed. -/
def Spent (s : Session Memory MemoryDraft) (name : String) : Prop :=
  ∀ d, s.outlook.held name = some d → d.committed = true

theorem committed_record {d : MemoryDraft} (h : d.committed = true) (w : Write) :
    (d.record w).committed = true := by
  cases w with
  | updateOperation op =>
      rw [MemoryDraft.record]
      split_ifs <;> exact h
  | commit => rfl
  | _ => exact h

theorem spent_of_succeeds (hs : s.backend = Memory.backend) {name : String}
    (h : s.succeeds (.write name .commit) = true) : (s.take (.write name .commit)).Spent name := by
  obtain ⟨-, -, -, -, hheld⟩ := takes_of_succeeds hs h
  intro d hd
  rw [hheld] at hd
  cases hd
  rfl

/-- The store accepts no draft that has been committed. -/
theorem Spent.not_succeeds (hs : s.backend = Memory.backend) {name : String} (hspent : s.Spent name) :
    s.succeeds (.write name .commit) = false := by
  refine Bool.eq_false_iff.2 fun h => ?_
  obtain ⟨d, hd, haccepts, -⟩ := takes_of_succeeds hs h
  have huncommitted := haccepts.uncommitted
  rw [hspent d hd] at huncommitted
  cases huncommitted

/-- A draft stays committed until another one is opened under its name. -/
theorem Spent.follow (hs : s.backend = Memory.backend) {steps : List Step} {name : String}
    (hspent : s.Spent name) (h : .openDraft name ∉ steps) : (s.follow steps).Spent name := by
  induction steps generalizing s with
  | nil => exact hspent
  | cons step steps ih =>
      rw [List.mem_cons, not_or] at h
      refine ih ((s.backend_take step).trans hs) ?_ h.2
      intro d hd
      rcases take_cases hs step with ⟨-, hsame⟩ | ⟨-, hnoted⟩
      · rw [hsame] at hd
        exact hspent d hd
      rw [hnoted] at hd
      rcases (held_note s.outlook step name).resolve_left (fun hopened => h.1 hopened.symm) d hd with
        hd | ⟨d', w, hd', rfl⟩
      · exact hspent d hd
      · exact committed_record (hspent d' hd') w

/-! ### Without faults -/

/-- Without faults a store in memory is asked as it stands. -/
theorem act_unfaulty (c : Call MemoryDraft) (m : Memory) :
    (Memory.backend.withFaults.act c ⟨[], m⟩).1 = (m.answer c).1 ∧
      (Memory.backend.withFaults.act c ⟨[], m⟩).2.2.faults = [] := by
  cases c <;> exact ⟨rfl, rfl⟩

theorem ask_unfaulty (hs : s.backend = Memory.backend) (h : s.store.faults = []) (c : Call MemoryDraft) :
    (s.ask c).result = (s.store.store.answer c).1 ∧ (s.ask c).state.store.faults = [] := by
  obtain ⟨backend, ⟨faults, m⟩, drafts, settings⟩ := s
  cases hs
  cases h
  exact act_unfaulty c m

theorem faults_take (hs : s.backend = Memory.backend) (h : s.store.faults = []) {step : Step}
    (hstep : ∀ f, step ≠ .arm f) : (s.take step).store.faults = [] := by
  cases step with
  | ask c plain => exact (ask_unfaulty hs h c).2
  | openDraft name =>
      have hstate : (s.take (.openDraft name)).store = (s.ask .begin).state.store :=
        (askDraft_state name _).1
      rw [hstate]
      exact (ask_unfaulty hs h .begin).2
  | write name w =>
      rw [take, write?]
      cases s.drafts.lookup name with
      | none => exact h
      | some d =>
          have hstate : (s.askDraft name (w.script d)).state.store = (s.ask (w.call d)).state.store := by
            rw [← run_script]
            exact (askDraft_state name _).1
          show (s.askDraft name (w.script d)).state.store.faults = []
          rw [hstate]
          exact (ask_unfaulty hs h (w.call d)).2
  | dropDraft name => exact h
  | arm f => exact absurd rfl (hstep f)

theorem faults_follow (hs : s.backend = Memory.backend) (h : s.store.faults = []) {steps : List Step}
    (hsteps : ∀ f, Step.arm f ∉ steps) : (s.follow steps).store.faults = [] := by
  induction steps generalizing s with
  | nil => exact h
  | cons step steps ih =>
      have hstep : ∀ f, step ≠ .arm f := fun f hf => hsteps f (hf ▸ List.mem_cons_self)
      exact ih ((s.backend_take step).trans hs) (faults_take hs h hstep) fun f hf =>
        hsteps f (List.mem_cons_of_mem _ hf)

/-- What the store accepts is committed. -/
theorem succeeds_of_accepts (hs : s.backend = Memory.backend) (h : s.store.faults = []) {name : String}
    {d : MemoryDraft} (hd : s.outlook.held name = some d) (haccepts : s.store.store.Accepts d) :
    s.succeeds (.write name .commit) = true := by
  have hname : s.drafts.lookup name = some d := hd
  have hreply : (s.ask (.commit d)).result = .ok ⟨[], [], true⟩ := by
    rw [(ask_unfaulty hs h (.commit d)).1]
    show (s.store.store.changed (s.store.store.commit d)).1 = _
    rw [Memory.commit_eq_ok_iff.2 ⟨haccepts, rfl⟩]
    rfl
  have hrun : (s.run ((Write.commit).script d)).result = .ok ⟨[], [], true⟩ := hreply
  rw [succeeds, write?, hname]
  show (s.askDraft name ((Write.commit).script d)).result.isOk = true
  rw [askDraft, hrun]
  rfl

/-! ### Isolation -/

/-- **Drafts are isolated and taken as a whole, once.** At every moment of every run what is seen, and
what each draft holds back, is told by the steps that succeeded, in their order. A step that fails
changes nothing. Of the steps of drafts only a commit is seen, and it brings in all that its draft
holds, which the store accepts at that moment; what others do leaves a draft alone, so a draft that was
refused is committed as soon as it is accepted. It is not committed twice. Without faults this is what
everybody gets to see. -/
theorem drafts_isolated (settings : Settings) (steps : List Step) :
    let s := (onMemory settings).follow steps
    let m := s.store.store
    s.outlook = ((onMemory settings).succeeded steps).foldl Outlook.note .empty ∧
    (∀ step, s.succeeds step = false → (s.take step).outlook = s.outlook) ∧
    (∀ step, (∀ c plain, step ≠ .ask c plain) → (∀ name, step ≠ .write name .commit) →
      (s.take step).store.store = m) ∧
    (∀ name, s.succeeds (.write name .commit) = true →
      ∃ d, s.outlook.held name = some d ∧ m.Accepts d ∧
        m.Takes d (s.take (.write name .commit)).store.store) ∧
    (∀ name more, (∀ step ∈ more, step.name? ≠ some name) →
      (s.follow more).outlook.held name = s.outlook.held name) ∧
    (∀ name more, s.succeeds (.write name .commit) = true →
      ((s.take (.write name .commit)).follow more).succeeds (.write name .commit) = true →
        .openDraft name ∈ more) ∧
    ((∀ f, Step.arm f ∉ steps) →
      (∀ c, (s.ask c).result = (m.answer c).1) ∧
        ∀ name d, s.outlook.held name = some d → m.Accepts d →
          s.succeeds (.write name .commit) = true) := by
  intro s m
  have hs : s.backend = Memory.backend := backend_follow _ steps
  refine ⟨?_, ?_, ?_, ?_, ?_, ?_, ?_⟩
  · exact outlook_follow rfl steps
  · intro step hfails
    rcases take_cases hs step with ⟨-, hsame⟩ | ⟨hsucceeds, -⟩
    · exact hsame
    · rw [hsucceeds] at hfails
      cases hfails
  · exact fun step hask hcommit => store_take_of_unseen hs hask hcommit
  · intro name hsucceeds
    obtain ⟨d, hd, haccepts, htakes, -⟩ := takes_of_succeeds hs hsucceeds
    exact ⟨d, hd, haccepts, htakes⟩
  · exact fun name more hmore => held_follow hs hmore
  · intro name more hfirst hsecond
    by_contra hopened
    have hs' := (s.backend_take (.write name .commit)).trans hs
    have hspent := (spent_of_succeeds hs hfirst).follow hs' hopened
    have hfails := hspent.not_succeeds ((backend_follow _ more).trans hs')
    rw [hsecond] at hfails
    cases hfails
  · intro harm
    have hfaults : s.store.faults = [] := faults_follow rfl rfl harm
    exact ⟨fun c => (ask_unfaulty hs hfaults c).1, fun name d hd => succeeds_of_accepts hs hfaults hd⟩

/-- A draft is refused as long as another deposit has its reference, then taken, and not taken again. -/
example :
    let s := (onMemory .default).follow
      (inserting "w" 1 keyA ++ inserting "v" 2 keyA ++ [.write "v" .commit])
    let mended := s.follow [.write "w" .commit, deleting 2]
    s.succeeds (.write "w" .commit) = false ∧ mended.succeeds (.write "w" .commit) = true ∧
      (mended.take (.write "w" .commit)).succeeds (.write "w" .commit) = false :=
  ⟨rfl, rfl, rfl⟩

end Session
end Daybook
