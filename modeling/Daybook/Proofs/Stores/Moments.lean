import Daybook.Proofs.Memory.Unit
import Daybook.Proofs.Stores.Journal

/-!
Balances and moments. Whatever is requested, entries are only appended, and their moments are readings of
the clock that the request takes, in the order in which it takes them (`Memory.exists_appended`). So with
a clock that never goes back the entries of a store are sorted by moment, those up to a cutoff are the
first of them, and what is appended later lies behind every cutoff that has passed
(`balances_at_moments`).
-/

namespace Daybook

/-! ### Readings of the clock -/

/-- The readings that a submission takes: one for its operation, one for each entry that it builds, in
turn, and one at the end. A submission that is answered before its operation is started takes none. -/
def Submission.readings (q : Submission) (m : Memory) : List Time :=
  match q.order with
  | .error _ => []
  | .ok o =>
    match m.findByReference o.reference, q.obstacle m.accounts o,
      Booking.entries q.stamps q.operationId o (q.settlement o) with
    | none, none, .ok es =>
      let built := [q.stamps.firstEntry, q.stamps.secondEntry].take es.length
      q.stamps.operation.time :: built.map (·.time) ++ [q.stamps.completed]
    | _, _, _ => []

/-- The moments of the entries are among them. -/
theorem Submission.Books.readings {q : Submission} {o : Order} {p : Posting} {m : Memory}
    (h : q.Books o p) (hfree : m.findByReference o.reference = none)
    (hclear : q.obstacle m.accounts o = none) :
    q.readings m =
      q.stamps.operation.time :: p.entries.map (·.createdAt) ++ [q.stamps.completed] := by
  rw [Submission.readings]
  simp only [h.checked, hfree, hclear, h.entries, ← h.stamps_eq, List.map_map]
  rfl

/-- The readings of the clock that a request takes for the books, in the order in which it takes them. No
entry is stamped with what is read for a balance or a record. -/
def Request.readings (m : Memory) : Request → List Time
  | .process q => q.readings m
  | _ => []

/-- The readings that requests take for the books, one after the other. -/
def readings : List Request → Memory → List Time
  | [], _ => []
  | q :: qs, m => q.readings m ++ readings qs (q.script.ending Memory.backend m).2

/-! ### What a script appends -/

/-- Only a commit changes the entries. -/
theorem Memory.entries_answer (m : Memory) {c : Call MemoryDraft} (h : c.isCommit = false) :
    (m.answer c).2.entries = m.entries := by
  have heffect := m.effect_answer c
  generalize (m.answer c).2 = m' at heffect ⊢
  cases heffect with
  | commit => cases h
  | _ => rfl

namespace Script

variable {α : Type} {m : Memory} {es : List Entry}

theorem Quiet.entries {script : Script MemoryDraft α} (h : script.Quiet) (m : Memory) :
    (script.ending Memory.backend m).2.entries = m.entries := by
  induction script generalizing m with
  | done a => rfl
  | emit e next ih => exact ih h.2 m
  | call c next ih => exact (ih _ (h.2 _) _).trans (m.entries_answer h.1)

/-- The script appends the entries, or none. -/
def Appends (script : Script MemoryDraft α) (es : List Entry) (m : Memory) : Prop :=
  (script.ending Memory.backend m).2.entries = m.entries ∨
    (script.ending Memory.backend m).2.entries = m.entries ++ es

theorem Quiet.appends {script : Script MemoryDraft α} (h : script.Quiet) (es : List Entry) (m : Memory) :
    script.Appends es m :=
  Or.inl (h.entries m)

theorem appends_call {c : Call MemoryDraft} {next : c.Reply → Script MemoryDraft α} {reply : c.Reply}
    (hanswer : m.answer c = (reply, m)) (h : (next reply).Appends es m) :
    (Script.call c next).Appends es m := by
  rwa [Appends, ending_call (Memory.backend_answers hanswer)]

end Script

/-! ### What a booking appends -/

namespace Booking

variable {m : Memory} {es : List Entry} {d : MemoryDraft}

theorem quiet_recover (reference : Reference) : (recover reference : Script MemoryDraft _).Quiet := by
  refine ⟨rfl, fun reply => Script.quiet_andThen fun found => ?_⟩
  cases found with
  | none => exact ⟨rfl, trivial⟩
  | some winner => exact ⟨rfl, trivial⟩

theorem quiet_giveUp (op : Operation) (cause : Error) : (giveUp op cause : Script MemoryDraft _).Quiet := by
  unfold giveUp
  split
  · exact quiet_recover op.reference
  · exact ⟨rfl, trivial⟩

theorem appends_orGiveUp {α : Type} (op : Operation) {reply : Except StoreError α}
    {next : α → Script MemoryDraft Result} (h : ∀ a, reply = .ok a → (next a).Appends es m) :
    (orGiveUp op reply next).Appends es m := by
  cases reply with
  | error cause => exact (quiet_giveUp op (.store cause)).appends es m
  | ok a => exact h a rfl

theorem appends_commit (op : Operation) (count : Nat) (hd : d.entries = es) :
    (commit op count d).Appends es m := by
  rcases m.commit_cases d with ⟨cause, hcommit⟩ | ⟨-, -, hcommit⟩
  · have hanswer : m.answer (.commit d) = (.error cause, m) := by
      rw [Memory.answer, hcommit]
      rfl
    exact Script.appends_call hanswer ((quiet_giveUp op (.store cause)).appends es m)
  · have hanswer : m.answer (.commit d) = (.ok ⟨[], [], true⟩, m.apply d) := by
      rw [Memory.answer, hcommit]
      rfl
    rw [commit, Script.Appends, Script.ending_call (Memory.backend_answers hanswer)]
    exact Or.inr (by rw [← hd]; exact m.entries_apply d)

theorem appends_complete (op : Operation) (completed : Time) (count : Nat) (hd : d.entries = es) :
    (complete op completed count d).Appends es m := by
  rw [complete]
  cases op.markProcessed completed with
  | error cause => exact (quiet_giveUp op cause).appends es m
  | ok op' =>
      refine Script.appends_call rfl (appends_orGiveUp op' fun d' hd' => appends_commit op' count ?_)
      rcases Memory.updateOperation_eq_ok hd' with ⟨-, rfl⟩ | ⟨-, -, rfl⟩
      · exact hd
      · exact hd

/-- A write appends the entries of its draft when that is committed. -/
theorem appends_write (op : Operation) (completed : Time) (es : List Entry) (m : Memory) :
    (write op completed es).Appends es m := by
  refine Script.appends_call rfl (Script.appends_call rfl (appends_orGiveUp op fun d hd => ?_))
  obtain ⟨-, -, rfl⟩ := Memory.insertOperation_eq_ok_iff.1 hd
  exact Script.appends_call rfl (appends_complete op completed es.length rfl)

end Booking

namespace Memory

/-- What a request appends is stamped with readings that it takes. -/
theorem exists_appended_request (m : Memory) (q : Request) :
    ∃ added, (q.script.ending backend m).2.entries = m.entries ++ added ∧
      (added.map (·.createdAt)).Sublist (q.readings m) := by
  cases hsubmission : q.submission? with
  | none =>
      refine ⟨[], ?_, List.nil_sublist _⟩
      rw [(Request.quiet hsubmission).entries m, List.append_nil]
  | some s =>
      cases q with
      | process q =>
          rw [Request.script, Script.ending_map]
          rcases Submission.leads m q with ⟨r, hdecides⟩ | ⟨o, p, hbooks, hfree, hclear, hleads⟩
          · refine ⟨[], ?_, List.nil_sublist _⟩
            rw [hdecides m.reads, List.append_nil]
            rfl
          · rw [Request.readings, hbooks.readings hfree hclear, hleads m.reads]
            rcases Booking.appends_write (q.started o) q.stamps.completed p.entries m with hsame | hadded
            · exact ⟨[], by rw [hsame, List.append_nil], List.nil_sublist _⟩
            · exact ⟨p.entries, hadded, (List.sublist_append_left _ _).cons _⟩
      | _ => cases hsubmission

/-- **From one request to all of them.** -/
theorem exists_appended (m : Memory) (requests : List Request) :
    ∃ added, (serve backend requests m).2.entries = m.entries ++ added ∧
      (added.map (·.createdAt)).Sublist (readings requests m) := by
  induction requests generalizing m with
  | nil => exact ⟨[], (List.append_nil _).symm, List.nil_sublist _⟩
  | cons q requests ih =>
      obtain ⟨first, hfirst, hreadings⟩ := m.exists_appended_request q
      obtain ⟨rest, hrest, hlater⟩ := ih (q.script.ending backend m).2
      refine ⟨first ++ rest, ?_, ?_⟩
      · rw [← List.append_assoc, ← hfirst]
        exact hrest
      · rw [List.map_append, readings]
        exact hreadings.append hlater

end Memory

/-! ### Entries in the order of time -/

/-- What is no earlier than a moment after the cutoff is after the cutoff too. -/
theorem Time.le_eq_false_of_le {a b cutoff : Time} (hab : a.le b = true) (ha : a.le cutoff = false) :
    b.le cutoff = false := by
  cases hb : b.le cutoff with
  | false => rfl
  | true =>
      rw [Time.le_trans hab hb] at ha
      cases ha

namespace Entry

variable {es : List Entry} {c : Currency}

theorem upTo_eq_nil {cutoff : Time} (h : ∀ e ∈ es, e.createdAt.le cutoff = false) :
    upTo cutoff es = [] :=
  List.filter_eq_nil_iff.2 fun e he => by simp [h e he]

/-- Of entries in the order of time those up to a moment are the first ones. -/
theorem upTo_initial (h : es.Pairwise fun a b => a.createdAt.le b.createdAt = true) (cutoff : Time) :
    upTo cutoff es <+: es := by
  induction es with
  | nil => exact List.prefix_rfl
  | cons e es ih =>
      obtain ⟨hlater, hrest⟩ := List.pairwise_cons.1 h
      cases hcutoff : e.createdAt.le cutoff with
      | true =>
          rw [upTo, List.filter_cons, if_pos hcutoff]
          exact (List.prefix_cons_inj e).2 (ih hrest)
      | false =>
          -- What follows is no earlier, so nothing of it is counted either.
          have hnone : upTo cutoff (e :: es) = [] :=
            upTo_eq_nil (List.forall_mem_cons.2
              ⟨hcutoff, fun e' he' => Time.le_eq_false_of_le (hlater e' he') hcutoff⟩)
          rw [hnone]
          exact List.nil_prefix

/-- Where the whole can be added up, so can its beginning. -/
theorem exists_total_of_initial {l : List Entry} {whole : Money} (hinitial : l <+: es)
    (h : total c es = .ok whole) : ∃ amount, total c l = .ok amount := by
  obtain ⟨rest, rfl⟩ := hinitial
  rw [total, Money.sum, List.map_append, List.foldlM_append] at h
  obtain ⟨amount, hamount, -⟩ := except_bind_eq_ok.1 h
  exact ⟨amount, hamount⟩

end Entry

/-! ### A moment in a run -/

/-- The clock never goes back in a run with a moment between two requests at which it is read. -/
def InOrder (before : List Request) (t : Time) (after : List Request) : Prop :=
  (readings before .empty ++ t :: readings after (serve Memory.backend before .empty).2).Pairwise
    fun a b => a.le b = true

instance (before : List Request) (t : Time) (after : List Request) : Decidable (InOrder before t after) :=
  inferInstanceAs (Decidable (List.Pairwise _ _))

namespace Memory

/-- The entries of a store and those that are appended to it are sorted, and the moment lies between. -/
structure Divided (now : Memory) (t : Time) (later : Memory) (added : List Entry) : Prop where
  entries : later.entries = now.entries ++ added
  sorted : later.entries.Pairwise fun a b => a.createdAt.le b.createdAt = true
  past : ∀ e ∈ now.entries, e.createdAt.le t = true
  ahead : ∀ e ∈ added, t.le e.createdAt = true

theorem exists_divided {before after : List Request} {t : Time} (h : InOrder before t after) :
    ∃ added, Divided (serve backend before .empty).2 t (serve backend (before ++ after) .empty).2 added := by
  obtain ⟨es, hes, hbefore⟩ := Memory.empty.exists_appended before
  obtain ⟨added, hadded, hafter⟩ := (serve backend before .empty).2.exists_appended after
  rw [show Memory.empty.entries = [] from rfl, List.nil_append] at hes
  have hreadings := h.sublist (hbefore.append (hafter.cons_cons t))
  obtain ⟨hfirst, hrest, hacross⟩ := List.pairwise_append.1 hreadings
  obtain ⟨hahead, hlast⟩ := List.pairwise_cons.1 hrest
  refine ⟨added, ?_, ?_, ?_, ?_⟩
  · rw [serve_append, hadded]
  · rw [serve_append, hadded, hes]
    refine List.pairwise_append.2 ⟨List.pairwise_map.1 hfirst, List.pairwise_map.1 hlast, ?_⟩
    intro a ha b hb
    exact hacross _ (List.mem_map_of_mem ha) _ (List.mem_cons_of_mem _ (List.mem_map_of_mem hb))
  · rw [hes]
    exact fun e he => hacross _ (List.mem_map_of_mem he) t List.mem_cons_self
  · exact fun e he => hahead _ (List.mem_map_of_mem he)

namespace Divided

variable {now later : Memory} {t : Time} {added : List Entry}

theorem sorted_now (h : Divided now t later added) :
    now.entries.Pairwise fun a b => a.createdAt.le b.createdAt = true := by
  have hsorted := h.sorted
  rw [h.entries] at hsorted
  exact (List.pairwise_append.1 hsorted).1

theorem entriesOf_now (h : Divided now t later added) (id : AccountId) :
    now.entriesOf id = now.entries.filter (·.account == id) :=
  Memory.entriesOf_of_sorted h.sorted_now id

theorem entriesOf_later (h : Divided now t later added) (id : AccountId) :
    later.entriesOf id = now.entriesOf id ++ added.filter (·.account == id) := by
  rw [Memory.entriesOf_of_sorted h.sorted, h.entries, List.filter_append, h.entriesOf_now]

/-- From the moment on all entries are counted. -/
theorem upTo_of_le (h : Divided now t later added) {cutoff : Time} (hcutoff : t.le cutoff = true)
    (id : AccountId) : Entry.upTo cutoff (now.entriesOf id) = now.entriesOf id := by
  refine List.filter_eq_self.2 fun e he => ?_
  rw [h.entriesOf_now] at he
  exact Time.le_trans (h.past e (List.mem_of_mem_filter he)) hcutoff

/-- What is appended later is not counted up to a cutoff before the moment. -/
theorem upTo_later (h : Divided now t later added) {cutoff : Time} (hcutoff : t.le cutoff = false)
    (id : AccountId) :
    Entry.upTo cutoff (later.entriesOf id) = Entry.upTo cutoff (now.entriesOf id) := by
  have hnone : Entry.upTo cutoff (added.filter (·.account == id)) = [] :=
    Entry.upTo_eq_nil fun e he =>
      Time.le_eq_false_of_le (h.ahead e (List.mem_of_mem_filter he)) hcutoff
  rw [h.entriesOf_later, Entry.upTo, List.filter_append]
  exact (congrArg _ hnone).trans (List.append_nil _)

end Divided
end Memory

/-- **Balances at moments agree with the current ones, and stay as they are.** In a run from an empty store
in which the clock never goes back, the balance of an account at the moment of a reading or after it is
the current one. At a cutoff before the reading it does not change any more, whatever is requested later,
while the account is there. If the entries of the account can be added up, all these balances are given:
each is what the entries up to its cutoff come to, and it tells how many these are. -/
theorem balances_at_moments {before after : List Request} {t : Time} (hclock : InOrder before t after)
    (currency : Currency) (id : AccountId) :
    let now := (serve Memory.backend before .empty).2
    let later := (serve Memory.backend (before ++ after) .empty).2
    let current := ((Balance.current t currency id).ending Memory.backend now).1
    let entries := now.entries.filter (·.account == id)
    (∀ cutoff, t.le cutoff = true →
      ((Balance.atMoment cutoff currency id).ending Memory.backend now).1 =
        current.map fun b => { b with asOf := cutoff }) ∧
    (now.accounts.contains id = true → later.accounts.contains id = true →
      ∀ cutoff, t.le cutoff = false →
        ((Balance.atMoment cutoff currency id).ending Memory.backend later).1 =
          ((Balance.atMoment cutoff currency id).ending Memory.backend now).1) ∧
    (now.accounts.contains id = true → ∀ amount, Entry.total currency entries = .ok amount →
      current = .ok ⟨id, amount, entries.length, t⟩ ∧
      ∀ cutoff, ∃ part, Entry.total currency (Entry.upTo cutoff entries) = .ok part ∧
        ((Balance.atMoment cutoff currency id).ending Memory.backend now).1 =
          .ok ⟨id, part, (Entry.upTo cutoff entries).length, cutoff⟩) := by
  intro now later current entries
  obtain ⟨added, hdivided⟩ := Memory.exists_divided hclock
  have hcurrent : current = Balance.answer now t currency id :=
    congrArg Prod.fst (Balance.ending_current now t currency id)
  have hentries : now.entriesOf id = entries := hdivided.entriesOf_now id
  refine ⟨fun cutoff hcutoff => ?_, fun hnow hlater cutoff hcutoff => ?_, fun hnow amount htotal => ?_⟩
  · rw [hcurrent, Balance.ending_atMoment, Balance.answerAt, hdivided.upTo_of_le hcutoff, Balance.answer]
    cases now.accounts.get? id with
    | none => rfl
    | some a => cases Entry.total currency (now.entriesOf id) <;> rfl
  · obtain ⟨a, ha⟩ := Option.isSome_iff_exists.1 hnow
    obtain ⟨a', ha'⟩ := Option.isSome_iff_exists.1 hlater
    have hcounted : Entry.upTo cutoff (later.entriesOf id) = Entry.upTo cutoff (now.entriesOf id) :=
      hdivided.upTo_later hcutoff id
    rw [Balance.ending_atMoment, Balance.ending_atMoment, Balance.answerAt, Balance.answerAt, hcounted,
      ha, ha']
    cases Entry.total currency (Entry.upTo cutoff (now.entriesOf id)) <;> rfl
  · obtain ⟨a, ha⟩ := Option.isSome_iff_exists.1 hnow
    refine ⟨by rw [hcurrent, Balance.answer, ha, hentries, htotal], fun cutoff => ?_⟩
    have hsorted := hdivided.sorted_now.filter (·.account == id)
    obtain ⟨part, hpart⟩ := Entry.exists_total_of_initial (Entry.upTo_initial hsorted cutoff) htotal
    refine ⟨part, hpart, ?_⟩
    rw [Balance.ending_atMoment, Balance.answerAt, ha, hentries, hpart]

/-- An account is opened and ten is deposited. -/
def firstDeposit : List Request :=
  [.insertAccount Submission.depositAccount, .process (Submission.twoDeposits false)]

/-- Ten more is deposited later, under another reference. -/
def secondDeposit : List Request :=
  [.process (.counted (.deposit "R-2" Submission.depositAccount.id ((Decimal.ofNat? 10).getD .zero)) 30)]

/-- The second deposit does not change the balance at a moment before it. -/
theorem balances_at_moments_deposits :
    let later := (serve Memory.backend (firstDeposit ++ secondDeposit) .empty).2
    let id := Submission.depositAccount.id
    InOrder firstDeposit (.ofNanos 20) secondDeposit ∧ later.entries.length = 2 ∧
    ∃ amount, ((Balance.atMoment (.ofNanos 15) .brl id).ending Memory.backend later).1 =
      .ok ⟨id, amount, 1, .ofNanos 15⟩ := by
  intro later id
  have hclock : InOrder firstDeposit (.ofNanos 20) secondDeposit := by decide +kernel
  obtain ⟨-, hkept, hgiven⟩ := balances_at_moments hclock .brl id
  let now := (serve Memory.backend firstDeposit .empty).2
  have hnow : now.accounts.contains id = true := by decide +kernel
  have htotal : Entry.total .brl (now.entries.filter (·.account == id)) =
      .ok (.new ((Decimal.ofNat? 10).getD .zero) .brl) := by decide +kernel
  obtain ⟨-, hparts⟩ := hgiven hnow _ htotal
  obtain ⟨amount, -, hamount⟩ := hparts (.ofNanos 15)
  have hcount : (Entry.upTo (.ofNanos 15) (now.entries.filter (·.account == id))).length = 1 := by
    decide +kernel
  refine ⟨hclock, by decide +kernel, amount, ?_⟩
  rw [hkept hnow (by decide +kernel) (.ofNanos 15) (by decide), hamount, hcount]

end Daybook
