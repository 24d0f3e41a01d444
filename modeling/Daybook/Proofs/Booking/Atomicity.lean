import Daybook.Proofs.Booking.Submission
import Daybook.Proofs.Script.Atomic

/-!
Booking is atomic. Going through the script of a submission stage by stage: a known reference is
decided at a search by reference, a posting at the commit, and all the rest changes nothing. With
fixed accounts and no disturbance an obstacle is decided at the first search already, because the
reference may be taken later. Main statements: `Submission.atomic` for a submission among others, and
`Submission.run_eq_verdict` for a submission alone.
-/

namespace Daybook

/-- What a submission finds around it: others keep what is stored, and leave its id alone. -/
def Circumstances.around (v : Circumstances) (id : OperationId) : Surroundings Memory MemoryDraft :=
  ⟨Memory.Answers v.disturbed, v.Sound, Memory.Spares id⟩

namespace Submission

variable {q : Submission} {v : Circumstances} {o : Order} {s : Memory}

/-- What is left of the script of a submission is atomic. -/
abbrev Atomic (q : Submission) (v : Circumstances) (script : Script MemoryDraft Booking.Result)
    (decision : Option Booking.Result) (s : Memory) : Prop :=
  script.Atomic (v.around q.operationId) (q.Acts v) decision s

theorem atomic_refused {e : Error} (h : v.Refuses e) : q.Atomic v (.done (.error e)) none s :=
  fun _ _ _ => .refused h

/-! ### After an error -/

/-- The search for the winner of a conflict. -/
theorem atomic_recover (hchecked : q.order = .ok o) (hs : v.Sound s)
    (hreason : v.disturbed ∨ ∃ winner, s.findByReference o.reference = some winner) :
    q.Atomic v (Booking.recover o.reference) none s := by
  intro t ht hst r t' hr
  cases hr with
  | failed _ _ e hd => exact Or.inl ⟨rfl, atomic_refused (Or.inl hd)⟩
  | missed _ _ hd => exact Or.inl ⟨rfl, atomic_refused (Or.inl hd)⟩
  | heard =>
      cases hfind : t.findByReference o.reference with
      | some winner =>
          rw [Memory.answer_findByReference hfind]
          exact Or.inr ⟨rfl, .ok winner, .known hchecked hfind, rfl⟩
      | none =>
          rw [Memory.answer_findByReference hfind]
          rcases hreason with hd | ⟨winner, hwinner⟩
          · exact Or.inl ⟨rfl, atomic_refused (Or.inl hd)⟩
          · rw [hst.kept.find hs.indexed ht.indexed hwinner] at hfind
            cases hfind

/-- A conflict comes from an operation that is stored. -/
theorem atomic_giveUp_conflict (hchecked : q.order = .ok o) (hs : v.Sound s) {op winner : Operation}
    (hop : op.reference = o.reference) (hwinner : s.findByReference o.reference = some winner)
    (text : String) :
    q.Atomic v (Booking.giveUp op (.store (.duplicateReference text))) none s := by
  show q.Atomic v (Booking.recover op.reference) none s
  rw [hop]
  exact atomic_recover hchecked hs (Or.inr ⟨winner, hwinner⟩)

theorem atomic_giveUp_disturbed (hchecked : q.order = .ok o) (hs : v.Sound s) {op : Operation}
    (hop : op.reference = o.reference) (hd : v.disturbed) (cause : StoreError) :
    q.Atomic v (Booking.giveUp op (.store cause)) none s := by
  cases cause with
  | duplicateReference text =>
      show q.Atomic v (Booking.recover op.reference) none s
      rw [hop]
      exact atomic_recover hchecked hs (Or.inl hd)
  | _ => exact atomic_refused (Or.inl hd)

/-! ### Writing -/

/-- The operation of a submission as it is started. -/
def started (q : Submission) (o : Order) : Operation :=
  Operation.start q.stamps.operation o.reference o.movement.kind

/-- Marked as processed, it is the operation of the posting. -/
theorem Books.markProcessed {p : Posting} (h : q.Books o p) :
    (q.started o).markProcessed q.stamps.completed = .ok p.operation := by
  rw [h.operation]
  rfl

section Writing

variable {p : Posting} (hbooks : q.Books o p) (hfresh : s.operations.get? q.operationId = none)
  (hclear : ∀ {A}, v.accounts = some A → q.obstacle A o = none)

include hbooks hfresh hclear

/-- The commit of the posting. -/
theorem atomic_commit (count : Nat) :
    q.Atomic v (Booking.commit p.operation count p.draft) none s := by
  intro t ht hst r t' hr
  cases hr with
  | failed _ _ e hd =>
      exact Or.inl ⟨rfl, atomic_giveUp_disturbed hbooks.checked ht hbooks.reference_eq hd e⟩
  | heard =>
      have hnew : t.operations.get? p.operation.id = none := by
        rw [hbooks.id_eq]
        exact hst.fresh hfresh
      rw [show t.answer (.commit p.draft) = t.changed (t.commit p.draft) from rfl]
      rcases ht.indexed.commit_cases hbooks.proper hnew with
        ⟨hfree, hpresent, hcommit⟩ | ⟨winner, hwinner, hcommit⟩ | ⟨detail, ⟨e, he, hmissing⟩, hcommit⟩
      · rw [hcommit]
        exact Or.inr ⟨rfl, .ok p.operation, .booked hbooks hnew hfree hpresent hclear, rfl⟩
      · rw [hcommit]
        rw [hbooks.reference_eq] at hwinner
        exact Or.inl ⟨rfl, atomic_giveUp_conflict hbooks.checked ht hbooks.reference_eq hwinner
          p.operation.reference.text⟩
      · rw [hcommit]
        refine Or.inl ⟨rfl, atomic_refused (Or.inr ⟨?_, rfl⟩)⟩
        cases hfixed : v.accounts with
        | none => rfl
        | some A =>
            rw [ht.accounts hfixed, hbooks.present (hclear hfixed) he] at hmissing
            cases hmissing

theorem atomic_complete (count : Nat) :
    q.Atomic v (Booking.complete (q.started o) q.stamps.completed count
      ⟨[q.started o], p.entries, false⟩) none s := by
  rw [Booking.complete, hbooks.markProcessed]
  intro t ht hst r t' hr
  cases hr with
  | failed _ _ e hd =>
      exact Or.inl ⟨rfl, atomic_giveUp_disturbed hbooks.checked ht hbooks.reference_eq hd e⟩
  | heard =>
      have hupdate := t.updateOperation_draft p (q.started o) hbooks.id_eq.symm
      rw [show t.answer (.updateOperation ⟨[q.started o], p.entries, false⟩ p.operation) =
        (.ok p.draft, t) from congrArg (·, t) hupdate]
      exact Or.inl ⟨rfl, atomic_commit hbooks (hst.fresh hfresh) hclear count⟩

theorem atomic_writeOperation :
    q.Atomic v (Booking.writeOperation (q.started o) q.stamps.completed p.entries .empty) none s := by
  intro t ht hst r t' hr
  have hchecked := hbooks.checked
  cases hr with
  | failed _ _ e hd => exact Or.inl ⟨rfl, atomic_giveUp_disturbed hchecked ht rfl hd e⟩
  | heard =>
      have hnew := hst.fresh hfresh
      rw [show t.answer (.insertOperation .empty (q.started o)) =
        (t.insertOperation .empty (q.started o), t) from rfl, ht.indexed.insertOperation hnew]
      cases hfind : t.findByReference o.reference with
      | some winner =>
          rw [show t.findByReference (q.started o).reference = some winner from hfind]
          exact Or.inl ⟨rfl, atomic_giveUp_conflict hchecked ht rfl hfind o.reference.text⟩
      | none =>
          rw [show t.findByReference (q.started o).reference = none from hfind]
          refine Or.inl ⟨rfl, ?_⟩
          intro u hu htu r u' hr
          cases hr with
          | failed _ _ e hd => exact Or.inl ⟨rfl, atomic_giveUp_disturbed hchecked hu rfl hd e⟩
          | heard => exact Or.inl ⟨rfl, atomic_complete hbooks (htu.fresh hnew) hclear _⟩

/-- Writing the posting through a draft. -/
theorem atomic_write :
    q.Atomic v (Booking.write (q.started o) q.stamps.completed p.entries) none s := by
  have hchecked := hbooks.checked
  intro t ht hst r t' hr
  cases hr with
  | failed _ _ e hd => exact Or.inl ⟨rfl, atomic_giveUp_disturbed hchecked ht rfl hd e⟩
  | heard => exact Or.inl ⟨rfl, atomic_writeOperation hbooks (hst.fresh hfresh) hclear⟩

end Writing

/-! ### Searching -/

/-- The operation is started once all accounts have been found. -/
theorem Books.begin_eq {Draft : Type} {p : Posting} (h : q.Books o p) :
    (Booking.begin q.stamps o (q.settlement o) : Script Draft Booking.Result) =
      .emit (.entriesBuilt (q.started o).id p.entries.length)
        (Booking.write (q.started o) q.stamps.completed p.entries) := by
  have hentries : Booking.entries q.stamps (q.started o).id o (q.settlement o) = .ok p.entries :=
    h.entries
  rw [started] at hentries
  simp only [Booking.begin, hentries, started]

theorem atomic_begin (hchecked : q.order = .ok o)
    (hfresh : s.operations.get? q.operationId = none)
    (hclear : ∀ {A}, v.accounts = some A → q.obstacle A o = none) :
    q.Atomic v (Booking.begin q.stamps o (q.settlement o)) none s := by
  obtain ⟨p, hbooks⟩ := exists_books hchecked
  rw [hbooks.begin_eq]
  exact atomic_write hbooks hfresh hclear

/-- The decision so far agrees with what the search for the accounts comes to. What that is, is known
only if the accounts are fixed. -/
structure Foresees (q : Submission) (v : Circumstances) (o : Order)
    (decision : Option Booking.Result) (obstacle : Table AccountId Account → Option Error) : Prop where
  disturbed : v.disturbed → decision = none
  obstructed : ∀ {e : Error}, e.isConflict = false →
    (∀ {A}, v.accounts = some A → obstacle A = some e) →
      decision = some (.error e) ∨ decision = none ∧ v.Refuses e
  clear : (∀ {A}, v.accounts = some A → obstacle A = none) →
    decision = none ∧ ∀ {A}, v.accounts = some A → q.obstacle A o = none

namespace Foresees

variable {decision : Option Booking.Result} {obstacle obstacle' : Table AccountId Account → Option Error}

theorem congr (h : q.Foresees v o decision obstacle)
    (heq : ∀ {A}, v.accounts = some A → obstacle A = obstacle' A) :
    q.Foresees v o decision obstacle' where
  disturbed := h.disturbed
  obstructed hreference hsome := h.obstructed hreference fun hA => (heq hA).trans (hsome hA)
  clear hnone := h.clear fun hA => (heq hA).trans (hnone hA)

/-- Where an error needs no reason, nothing has to be foreseen. -/
theorem of_loose (hv : v.disturbed ∨ v.accounts = none) :
    q.Foresees v o none (q.obstacle · o) where
  disturbed _ := rfl
  obstructed := by
    intro e hreference _
    rcases hv with hd | hnone
    · exact Or.inr ⟨rfl, Or.inl hd⟩
    · exact Or.inr ⟨rfl, Or.inr ⟨hnone, hreference⟩⟩
  clear hnone := ⟨rfl, hnone⟩

theorem of_clear {A : Table AccountId Account} (hA : v.accounts = some A)
    (hclear : q.obstacle A o = none) : q.Foresees v o none (q.obstacle · o) where
  disturbed _ := rfl
  obstructed := by
    intro e _ he
    cases hclear.symm.trans (he hA)
  clear hnone := ⟨rfl, hnone⟩

theorem of_obstructed (hcalm : ¬ v.disturbed) {A : Table AccountId Account}
    (hA : v.accounts = some A) {e : Error} (hobstacle : q.obstacle A o = some e) :
    q.Foresees v o (some (.error e)) (q.obstacle · o) where
  disturbed hd := absurd hd hcalm
  obstructed := by
    intro e' _ he'
    cases hobstacle.symm.trans (he' hA)
    exact Or.inl rfl
  clear := by
    intro hnone
    cases hobstacle.symm.trans (hnone hA)

theorem atomic_failed (h : q.Foresees v o decision obstacle) (hd : v.disturbed) {e : Error} :
    q.Atomic v (.done (.error e)) decision s := by
  rw [h.disturbed hd]
  exact atomic_refused (Or.inl hd)

theorem atomic_obstructed (h : q.Foresees v o decision obstacle) {e : Error}
    (hreference : e.isConflict = false)
    (he : ∀ {A}, v.accounts = some A → obstacle A = some e) :
    q.Atomic v (.done (.error e)) decision s := by
  rcases h.obstructed hreference he with hdecided | ⟨hundecided, hrefuses⟩
  · rw [hdecided]
    rfl
  · rw [hundecided]
    exact atomic_refused hrefuses

theorem atomic_clear (h : q.Foresees v o decision obstacle) (hchecked : q.order = .ok o)
    (hfresh : s.operations.get? q.operationId = none)
    (hnone : ∀ {A}, v.accounts = some A → obstacle A = none) :
    q.Atomic v (Booking.begin q.stamps o (q.settlement o)) decision s := by
  obtain ⟨hundecided, hclear⟩ := h.clear hnone
  rw [hundecided]
  exact atomic_begin hchecked hfresh hclear

end Foresees

theorem findSettlement_of_none {Draft : Type} (h : q.settlement o = none) :
    (Booking.findSettlement q.settings q.stamps o : Script Draft Booking.Result) =
      Booking.begin q.stamps o none := by
  rw [settlement] at h
  rw [Booking.findSettlement]
  split
  · rfl
  · rename_i id hid
    split_ifs at h with htransfer
    · rw [if_pos htransfer]
    · rw [hid] at h
      cases h

theorem atomic_findSettlement (hchecked : q.order = .ok o)
    (hfresh : s.operations.get? q.operationId = none) {decision : Option Booking.Result}
    (h : q.Foresees v o decision (q.settlementObstacle · o)) :
    q.Atomic v (Booking.findSettlement q.settings q.stamps o) decision s := by
  cases hsettlement : q.settlement o with
  | none =>
      rw [findSettlement_of_none hsettlement, ← hsettlement]
      refine h.atomic_clear hchecked hfresh fun _ => ?_
      rw [settlementObstacle, hsettlement]
      rfl
  | some id =>
      obtain ⟨hsettings, htransfer⟩ := settlement_eq_some_iff.1 hsettlement
      simp only [Booking.findSettlement, hsettings, htransfer]
      refine Script.Atomic.idle fun t ht hst r t' hr => ?_
      cases hr with
      | failed _ _ e hd => exact ⟨rfl, h.atomic_failed hd⟩
      | heard =>
          have hobstacle : ∀ {A}, v.accounts = some A →
              q.settlementObstacle A o = unfit id (t.accounts.get? id) := by
            intro A hA
            rw [settlementObstacle, hsettlement, ht.accounts hA]
            rfl
          refine ⟨rfl, ?_⟩
          cases haccount : t.accounts.get? id with
          | none =>
              rw [Memory.answer_findAccount haccount]
              refine h.atomic_obstructed rfl fun hA => ?_
              rw [hobstacle hA, haccount]
              rfl
          | some account =>
              rw [Memory.answer_findAccount haccount]
              show q.Atomic v (if account.kind.canSettle then Booking.begin q.stamps o (some id)
                else .done (.error (.invalidSettlementAccount id))) decision t
              split_ifs with hsettle
              · rw [← hsettlement]
                refine h.atomic_clear hchecked (hst.fresh hfresh) fun hA => ?_
                rw [hobstacle hA, haccount]
                exact if_pos hsettle
              · refine h.atomic_obstructed rfl fun hA => ?_
                rw [hobstacle hA, haccount]
                exact if_neg hsettle

theorem atomic_findAccounts (hchecked : q.order = .ok o) (ids : List AccountId)
    (hfresh : s.operations.get? q.operationId = none) {decision : Option Booking.Result}
    (h : q.Foresees v o decision (q.obstacleAmong · o ids)) :
    q.Atomic v (Booking.findAccounts q.settings q.stamps o ids) decision s := by
  induction ids generalizing s with
  | nil => exact atomic_findSettlement hchecked hfresh h
  | cons id ids ih =>
      refine Script.Atomic.idle fun t ht hst r t' hr => ?_
      cases hr with
      | failed _ _ e hd => exact ⟨rfl, h.atomic_failed hd⟩
      | heard =>
          refine ⟨rfl, ?_⟩
          have hcontains : ∀ {A}, v.accounts = some A → A.contains id = (t.accounts.get? id).isSome := by
            intro A hA
            rw [Table.contains, ht.accounts hA]
          cases haccount : t.accounts.get? id with
          | none =>
              rw [Memory.answer_findAccount haccount]
              refine h.atomic_obstructed rfl fun hA => ?_
              rw [obstacleAmong, if_neg]
              simp [hcontains hA, haccount]
          | some account =>
              rw [Memory.answer_findAccount haccount]
              refine ih (hst.fresh hfresh) (h.congr fun hA => ?_)
              rw [obstacleAmong, if_pos]
              simp [hcontains hA, haccount]

/-! ### The whole -/

theorem atomic_lookUp (hchecked : q.order = .ok o) (hfresh : s.operations.get? q.operationId = none) :
    q.Atomic v (Booking.lookUp q.settings q.stamps o) none s := by
  intro t ht hst r t' hr
  have hnew := hst.fresh hfresh
  cases hr with
  | failed _ _ e hd => exact Or.inl ⟨rfl, atomic_refused (Or.inl hd)⟩
  | missed _ _ hd =>
      exact Or.inl ⟨rfl, atomic_findAccounts hchecked _ hnew (.of_loose (Or.inl hd))⟩
  | heard =>
      cases hfind : t.findByReference o.reference with
      | some existing =>
          rw [Memory.answer_findByReference hfind]
          exact Or.inr ⟨rfl, .ok existing, .known hchecked hfind, rfl⟩
      | none =>
          rw [Memory.answer_findByReference hfind]
          by_cases hv : v.disturbed ∨ v.accounts = none
          · exact Or.inl ⟨rfl, atomic_findAccounts hchecked _ hnew (.of_loose hv)⟩
          obtain ⟨hcalm, hsome⟩ := not_or.1 hv
          obtain ⟨A, hA⟩ := Option.ne_none_iff_exists'.1 hsome
          cases hobstacle : q.obstacle A o with
          | none => exact Or.inl ⟨rfl, atomic_findAccounts hchecked _ hnew (.of_clear hA hobstacle)⟩
          | some e =>
              -- The reference is free now and may be taken later, so this is the moment to fail.
              exact Or.inr ⟨rfl, .error e, .obstructed hchecked hfind hA hobstacle,
                atomic_findAccounts hchecked _ hnew (.of_obstructed hcalm hA hobstacle)⟩

/-- **A submission is atomic** if its id is new: whatever happens around it and whatever answers it
gets, it does one step. -/
theorem atomic (q : Submission) (v : Circumstances) {s : Memory}
    (hfresh : s.operations.get? q.operationId = none) : q.Atomic v q.script none s := by
  rw [script, Booking.process]
  cases hchecked : q.order with
  | error e =>
      rw [show q.command.check q.settings.currency q.settings.defaultSource = .error e from hchecked]
      exact fun _ _ _ => .malformed hchecked
  | ok o =>
      rw [show q.command.check q.settings.currency q.settings.defaultSource = .ok o from hchecked]
      exact atomic_lookUp hchecked hfresh

/-- Over the backend itself every call is heard. -/
theorem atomic_backend (q : Submission) (v : Circumstances) {sound : Memory → Prop}
    (hsound : ∀ {m}, sound m → v.Sound m) {s : Memory}
    (hfresh : s.operations.get? q.operationId = none) :
    q.script.Atomic ⟨Memory.backend.Answers, sound, Memory.Spares q.operationId⟩ (q.Acts v) none s := by
  refine Script.Atomic.mono ?_ (fun hs => ?_) (fun hst => ?_) (q.atomic v hfresh)
  · rintro c m r t ⟨hr, ht⟩
    rw [hr, ht]
    exact .heard c m
  · exact hsound hs
  · exact hst

end Submission

/-! ### Running alone -/

/-- The accounts are fixed, and every call is heard. -/
def Circumstances.calm (accounts : Table AccountId Account) : Circumstances :=
  ⟨some accounts, False⟩

theorem Circumstances.sound_calm {m : Memory} (hm : m.Indexed) : (calm m.accounts).Sound m :=
  ⟨hm, fun h => Option.some.inj h⟩

/-- **What a submission does alone**, when all its calls are heard. -/
theorem Submission.run_eq_verdict (q : Submission) {m : Memory} (hm : m.Indexed)
    (hfresh : m.operations.get? q.operationId = none) :
    ((q.script.run Memory.backend m).result, (q.script.run Memory.backend m).state) =
      q.verdict m.accounts m := by
  have hacts : q.Acts (.calm m.accounts) m (q.script.run Memory.backend m).result
      (q.script.run Memory.backend m).state := by
    refine Script.Atomic.run Memory.backend (fun m => m) ?_ ?_ ?_ _ m (Circumstances.sound_calm hm)
      (q.atomic_backend _ id hfresh)
    · exact fun c m => ⟨rfl, rfl⟩
    · exact fun s => .refl q.operationId s
    · exact fun hs hact => hact.sound hs
  exact hacts.eq_verdict rfl id

end Daybook
