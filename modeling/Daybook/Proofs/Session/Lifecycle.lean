import Daybook.Proofs.Session.History
import Daybook.Proofs.Session.Isolation

/-!
The life of a stored operation. It may be finished once and nothing else about it may change
(`Operation.Advances`). The store itself does not see to that: a commit puts the operations of its
draft in the place of stored ones, whatever they say (`Session.stored_take`), so operations can be
rewritten and reopened (`Session.operations_rewritten`). They only advance when those who write are
careful (`Session.operations_kept`): a new operation gets a new id, an operation is updated to
something that it can become, and no two drafts hold versions of one operation at a time.
-/

namespace Daybook

/-- What an operation can become while it is stored: unfinished it may be finished, or stay so, and
finished it stays as it is. -/
structure Operation.Advances (op op' : Operation) : Prop where
  id : op'.id = op.id
  reference : op'.reference = op.reference
  kind : op'.kind = op.kind
  createdAt : op'.createdAt = op.createdAt
  finished : op.status.isTerminal = true → op' = op

namespace Operation.Advances

theorem refl (op : Operation) : op.Advances op :=
  ⟨rfl, rfl, rfl, rfl, fun _ => rfl⟩

theorem trans {op op' op'' : Operation} (h : op.Advances op') (h' : op'.Advances op'') :
    op.Advances op'' where
  id := h'.id.trans h.id
  reference := h'.reference.trans h.reference
  kind := h'.kind.trans h.kind
  createdAt := h'.createdAt.trans h.createdAt
  finished := by
    intro hfinished
    have hsame := h.finished hfinished
    rw [hsame] at h'
    exact h'.finished hfinished

/-- Every move of an operation advances it. -/
theorem move {op op' : Operation} {next : Operation.Status} {reason : Option String} {now : Time}
    (h : op.move next reason now = .ok op') : op.Advances op' := by
  rw [Operation.move] at h
  split_ifs at h with hterminal
  cases h
  exact ⟨rfl, rfl, rfl, rfl, fun hfinished => absurd hfinished hterminal⟩

end Operation.Advances

namespace Outlook

variable {o : Outlook}

/-- No draft holds an operation with the id. -/
def Unheld (o : Outlook) (id : OperationId) : Prop :=
  ∀ name d, o.held name = some d → ∀ op ∈ d.operations, op.id ≠ id

/-- A new operation gets an id that is neither stored nor held; an update advances an operation of
the draft, or a stored one that no draft holds. -/
def Careful (o : Outlook) : Session.Step → Prop
  | .write _ (.insertOperation op) => o.store.operations.get? op.id = none ∧ o.Unheld op.id
  | .write name (.updateOperation op) =>
    (∃ d, o.held name = some d ∧ ∃ pending ∈ d.operations, pending.Advances op) ∨
      (∃ stored, o.store.operations.get? op.id = some stored ∧ stored.Advances op) ∧ o.Unheld op.id
  | _ => True

/-- Operations stand under their own ids, drafts hold versions to which the stored ones can advance,
and no two drafts hold versions of one operation. -/
structure Orderly (o : Outlook) : Prop where
  keyed : ∀ {id op}, o.store.operations.get? id = some op → op.id = id
  advances : ∀ {name d op stored}, o.held name = some d → op ∈ d.operations →
    o.store.operations.get? op.id = some stored → stored.Advances op
  apart : ∀ {name name' d d' op op'}, o.held name = some d → o.held name' = some d' →
    op ∈ d.operations → op' ∈ d'.operations → op.id = op'.id → name = name'

/-- What is stored under an id in both has advanced. -/
def Forward (m m' : Memory) : Prop :=
  ∀ id op op', m.operations.get? id = some op → m'.operations.get? id = some op' → op.Advances op'

theorem Forward.of_kept {m m' : Memory}
    (h : ∀ id op', m'.operations.get? id = some op' → m.operations.get? id = some op') :
    Forward m m' := by
  intro id op op' hop hop'
  cases hop.symm.trans (h id op' hop')
  exact .refl op

theorem Orderly.empty : Orderly .empty where
  keyed := nofun
  advances := nofun
  apart := nofun

/-- Rows may go from the store, and operations from the drafts. -/
theorem Orderly.fewer {o' : Outlook} (ho : o.Orderly)
    (hstore : ∀ {id op}, o'.store.operations.get? id = some op → o.store.operations.get? id = some op)
    (hheld : ∀ {name d' op}, o'.held name = some d' → op ∈ d'.operations →
      ∃ d, o.held name = some d ∧ op ∈ d.operations) : o'.Orderly where
  keyed := fun hop => ho.keyed (hstore hop)
  advances := by
    intro name d' op stored hd' hop hstored
    obtain ⟨d, hd, hmem⟩ := hheld hd' hop
    exact ho.advances hd hmem (hstore hstored)
  apart := by
    intro name name' d d' op op' hd hd' hop hop' hid
    obtain ⟨_, hd, hop⟩ := hheld hd hop
    obtain ⟨_, hd', hop'⟩ := hheld hd' hop'
    exact ho.apart hd hd' hop hop' hid

/-! ### What a step keeps -/

/-- A draft may take an operation to which the stored one can advance and of which no other draft
holds a version. -/
theorem Orderly.hold (ho : o.Orderly) {name : String} {d d' : MemoryDraft} (op : Operation)
    (hd : o.held name = some d) (hmem : ∀ op' ∈ d'.operations, op' = op ∨ op' ∈ d.operations)
    (hadvances : ∀ stored, o.store.operations.get? op.id = some stored → stored.Advances op)
    (hapart : ∀ name' d'' op', o.held name' = some d'' → op' ∈ d''.operations → op'.id = op.id →
      name' = name) : (o.hold name (some d')).Orderly where
  keyed := ho.keyed
  advances := by
    intro name' d'' op' stored hheld hop' hstored
    rcases Session.held_hold_cases hheld with ⟨-, ⟨⟩⟩ | ⟨-, hheld⟩
    · rcases hmem op' hop' with rfl | hold
      · exact hadvances stored hstored
      · exact ho.advances hd hold hstored
    · exact ho.advances hheld hop' hstored
  apart := by
    -- An operation of the new draft is one of the old draft, or the one that it takes.
    have hone : ∀ {name' d'' op' op''}, name' ≠ name → o.held name' = some d'' →
        op' ∈ d''.operations → op'' ∈ d'.operations → op'.id ≠ op''.id := by
      intro name' d'' op' op'' hname hheld hop' hop'' hid
      rcases hmem op'' hop'' with rfl | hold
      · exact hname (hapart name' d'' op' hheld hop' hid)
      · exact hname (ho.apart hheld hd hop' hold hid)
    intro name₁ name₂ d₁ d₂ op₁ op₂ hd₁ hd₂ hop₁ hop₂ hid
    rcases Session.held_hold_cases hd₁ with ⟨h₁, ⟨⟩⟩ | ⟨h₁, hd₁⟩ <;>
      rcases Session.held_hold_cases hd₂ with ⟨h₂, ⟨⟩⟩ | ⟨h₂, hd₂⟩
    · rw [h₁, h₂]
    · exact absurd hid.symm (hone h₂ hd₂ hop₂ hop₁)
    · exact absurd hid (hone h₁ hd₁ hop₁ hop₂)
    · exact ho.apart hd₁ hd₂ hop₁ hop₂ hid

/-- A draft without operations is no trouble, nor is none at all. -/
theorem Orderly.hold_bare (ho : o.Orderly) (name : String) {d? : Option MemoryDraft}
    (hbare : ∀ d, d? = some d → d.operations = []) : (o.hold name d?).Orderly := by
  refine ho.fewer id fun {name' d' op} hd' hop => ?_
  rcases Session.held_hold_cases hd' with ⟨-, hput⟩ | ⟨-, hd'⟩
  · rw [hbare d' hput] at hop
    cases hop
  · exact ⟨d', hd', hop⟩

theorem get?_apply_cases {m : Memory} {d : MemoryDraft} {id : OperationId} {op : Operation}
    (h : (m.apply d).operations.get? id = some op) :
    op ∈ d.operations ∧ op.id = id ∨
      (∀ op' ∈ d.operations, op'.id ≠ id) ∧ m.operations.get? id = some op := by
  rw [(m.takes_apply d).operations] at h
  cases hfind : d.operations.reverse.find? fun op => id = op.id with
  | none =>
      rw [hfind] at h
      refine Or.inr ⟨fun op' hop' hid => ?_, h⟩
      have hother := List.find?_eq_none.1 hfind op' (List.mem_reverse.2 hop')
      exact hother (by simp [hid])
  | some op' =>
      rw [hfind] at h
      cases h
      have hid := List.find?_some hfind
      exact Or.inl ⟨List.mem_reverse.1 (List.mem_of_find?_eq_some hfind),
        (of_decide_eq_true hid).symm⟩

theorem Orderly.commit (ho : o.Orderly) {name : String} {d : MemoryDraft} (hd : o.held name = some d) :
    ({ o.hold name (some ⟨[], [], true⟩) with store := o.store.apply d } : Outlook).Orderly ∧
      Forward o.store (o.store.apply d) := by
  have hother : ∀ {name' d' op}, (o.hold name (some ⟨[], [], true⟩)).held name' = some d' →
      op ∈ d'.operations → name' ≠ name ∧ o.held name' = some d' := by
    intro name' d' op hd' hop
    rcases Session.held_hold_cases hd' with ⟨-, ⟨⟩⟩ | hold
    · cases hop
    · exact hold
  refine ⟨⟨?_, ?_, ?_⟩, ?_⟩
  · intro id op hop
    rcases get?_apply_cases hop with ⟨-, hid⟩ | ⟨-, hop⟩
    · exact hid
    · exact ho.keyed hop
  · intro name' d' op stored hd' hop hstored
    obtain ⟨hname, hd'⟩ := hother hd' hop
    rcases get?_apply_cases hstored with ⟨hmem, hid⟩ | ⟨-, hstored⟩
    · exact absurd (ho.apart hd' hd hop hmem hid.symm) hname
    · exact ho.advances hd' hop hstored
  · intro name₁ name₂ d₁ d₂ op₁ op₂ hd₁ hd₂ hop₁ hop₂ hid
    exact ho.apart (hother hd₁ hop₁).2 (hother hd₂ hop₂).2 hop₁ hop₂ hid
  · intro id op op' hop hop'
    rcases get?_apply_cases hop' with ⟨hmem, rfl⟩ | ⟨-, hop'⟩
    · exact ho.advances hd hmem hop
    · cases hop.symm.trans hop'
      exact .refl op

theorem operations_perform {m : Memory} {c : Call MemoryDraft} (plain : c.draft? = none)
    {id : OperationId} {op : Operation} (h : (m.perform c).operations.get? id = some op) :
    m.operations.get? id = some op := by
  cases c with
  | deleteOperation id' =>
      rw [Memory.perform] at h
      cases hop : m.operations.get? id' with
      | none =>
          rw [hop] at h
          exact h
      | some op' =>
          rw [hop] at h
          exact (Table.get?_of_get?_erase _ h).2
  | commit d => cases plain
  | _ => exact h

theorem mem_append_one {α : Type} {a b : α} {as : List α} (h : b ∈ as ++ [a]) : b = a ∨ b ∈ as :=
  (List.mem_append.1 h).symm.imp_left List.mem_singleton.1

theorem mem_replaceFirst {α : Type} {p : α → Bool} {a b : α} {as : List α}
    (h : b ∈ Memory.replaceFirst p a as) : b = a ∨ b ∈ as := by
  induction as with
  | nil => cases h
  | cons c as ih =>
      rw [Memory.replaceFirst] at h
      split_ifs at h
      · exact (List.mem_cons.1 h).imp_right (List.mem_cons_of_mem c)
      · rcases List.mem_cons.1 h with rfl | h
        · exact Or.inr List.mem_cons_self
        · exact (ih h).imp_right (List.mem_cons_of_mem c)

/-- A careful write keeps the order. -/
theorem Orderly.write (ho : o.Orderly) {name : String} {d : MemoryDraft} {w : Write}
    (hd : o.held name = some d) (hcareful : o.Careful (.write name w)) :
    (o.note (.write name w)).Orderly ∧ Forward o.store (o.note (.write name w)).store := by
  have hsame : Forward o.store o.store := .of_kept fun _ _ h => h
  rw [Session.note_write hd]
  cases w with
  | insertOperation op =>
      obtain ⟨hnew, hunheld⟩ := hcareful
      refine ⟨ho.hold op hd (fun op' => mem_append_one) (fun stored hstored => ?_) ?_, hsame⟩
      · rw [hnew] at hstored
        cases hstored
      · exact fun name' d'' op' hd'' hop' hid => absurd hid (hunheld name' d'' hd'' op' hop')
  | insertEntries es =>
      refine ⟨ho.fewer id fun {name' d' op} hd' hop => ?_, hsame⟩
      rcases Session.held_hold_cases hd' with ⟨rfl, ⟨⟩⟩ | ⟨-, hd'⟩
      · exact ⟨d, hd, hop⟩
      · exact ⟨d', hd', hop⟩
  | updateOperation op =>
      have hmem : ∀ op' ∈ (d.record (.updateOperation op)).operations, op' = op ∨ op' ∈ d.operations := by
        intro op' hop'
        rw [MemoryDraft.record] at hop'
        split_ifs at hop'
        · exact mem_replaceFirst hop'
        · exact mem_append_one hop'
      rcases hcareful with ⟨d', hd', pending, hpending, hop⟩ | ⟨⟨stored, hstored, hop⟩, hunheld⟩
      · cases hd.symm.trans hd'
        refine ⟨ho.hold op hd hmem (fun stored hstored => ?_) ?_, hsame⟩
        · rw [hop.id] at hstored
          exact (ho.advances hd hpending hstored).trans hop
        · intro name' d'' op' hd'' hop' hid
          exact ho.apart hd'' hd hop' hpending (hid.trans hop.id)
      · refine ⟨ho.hold op hd hmem (fun stored' hstored' => ?_) ?_, hsame⟩
        · cases hstored.symm.trans hstored'
          exact hop
        · exact fun name' d'' op' hd'' hop' hid => absurd hid (hunheld name' d'' hd'' op' hop')
  | commit => exact ho.commit hd

/-- **A careful step keeps the order, and what is stored advances.** -/
theorem Orderly.note (ho : o.Orderly) {step : Session.Step} (hcareful : o.Careful step) :
    (o.note step).Orderly ∧ Forward o.store (o.note step).store := by
  have hsame : Forward o.store o.store := .of_kept fun _ _ h => h
  cases step with
  | ask c plain =>
      have hkept : ∀ {id op}, (o.store.perform c).operations.get? id = some op →
          o.store.operations.get? id = some op := operations_perform plain
      exact ⟨ho.fewer hkept fun hd hop => ⟨_, hd, hop⟩, .of_kept fun _ _ => hkept⟩
  | openDraft name =>
      refine ⟨ho.hold_bare name fun d hd => ?_, hsame⟩
      cases hd
      rfl
  | write name w =>
      cases hd : o.held name with
      | some d => exact ho.write hd hcareful
      | none =>
          cases w with
          | commit =>
              have hnote : o.note (.write name .commit) = o := by
                rw [Outlook.note, hd]
              rw [hnote]
              exact ⟨ho, hsame⟩
          | _ => exact ⟨ho.hold_bare name (by simp [hd]), hsame⟩
  | dropDraft name =>
      refine ⟨ho.hold_bare name fun d hd => ?_, hsame⟩
      cases hd
  | arm f => exact ⟨ho, hsame⟩

end Outlook

namespace Session

variable {s : Session Memory MemoryDraft}

/-- Every step that succeeds is careful. -/
def Careful (s : Session Memory MemoryDraft) : List Step → Prop
  | [] => True
  | step :: steps =>
    (s.succeeds step = true → s.outlook.Careful step) ∧ (s.take step).Careful steps

/-- The operation of that id is stored after each of the steps. -/
def Stays (s : Session Memory MemoryDraft) (id : OperationId) : List Step → Prop
  | [] => True
  | step :: steps =>
    (s.take step).store.store.operations.contains id = true ∧ (s.take step).Stays id steps

theorem orderly_take (hs : s.backend = Memory.backend) (ho : s.outlook.Orderly) {step : Step}
    (hcareful : s.succeeds step = true → s.outlook.Careful step) :
    (s.take step).outlook.Orderly ∧ Outlook.Forward s.store.store (s.take step).store.store := by
  rcases take_cases hs step with ⟨-, hsame⟩ | ⟨hsucceeds, hnoted⟩
  · have hstore : (s.take step).store.store = s.store.store := congrArg Outlook.store hsame
    rw [hsame, hstore]
    exact ⟨ho, .of_kept fun _ _ h => h⟩
  · have hstore : (s.take step).store.store = (s.outlook.note step).store :=
      congrArg Outlook.store hnoted
    rw [hnoted, hstore]
    exact ho.note (hcareful hsucceeds)

theorem careful_append {steps more : List Step} (h : s.Careful (steps ++ more)) :
    s.Careful steps ∧ (s.follow steps).Careful more := by
  induction steps generalizing s with
  | nil => exact ⟨trivial, h⟩
  | cons step steps ih => exact ⟨⟨h.1, (ih h.2).1⟩, (ih h.2).2⟩

theorem orderly_follow (hs : s.backend = Memory.backend) (ho : s.outlook.Orderly) {steps : List Step}
    (hcareful : s.Careful steps) : (s.follow steps).outlook.Orderly := by
  induction steps generalizing s with
  | nil => exact ho
  | cons step steps ih =>
      exact ih ((s.backend_take step).trans hs) (orderly_take hs ho hcareful.1).1 hcareful.2

/-- What stays stored advances. -/
theorem advances_follow (hs : s.backend = Memory.backend) (ho : s.outlook.Orderly) {steps : List Step}
    (hcareful : s.Careful steps) {id : OperationId} {op : Operation}
    (hop : s.store.store.operations.get? id = some op) (hstays : s.Stays id steps) :
    ∃ op', (s.follow steps).store.store.operations.get? id = some op' ∧ op.Advances op' := by
  induction steps generalizing s op with
  | nil => exact ⟨op, hop, .refl op⟩
  | cons step steps ih =>
      obtain ⟨horderly, hforward⟩ := orderly_take hs ho hcareful.1
      obtain ⟨op', hop'⟩ := Option.isSome_iff_exists.1 hstays.1
      obtain ⟨op'', hop'', hadvances⟩ :=
        ih ((s.backend_take step).trans hs) horderly hcareful.2 hop' hstays.2
      exact ⟨op'', hop'', (hforward id op op' hop hop').trans hadvances⟩

/-! ### Careful or not -/

theorem call?_deleteOperation {step : Step} {id : OperationId}
    (h : s.call? step = some (.deleteOperation id)) : ∃ plain, step = .ask (.deleteOperation id) plain := by
  cases step with
  | ask c plain =>
      cases h
      exact ⟨plain, rfl⟩
  | write name w =>
      rw [call?] at h
      obtain ⟨d, -, hcall⟩ := Option.map_eq_some_iff.1 h
      cases w <;> cases hcall
  | _ => cases h

theorem call?_commit {step : Step} {d : MemoryDraft} (h : s.call? step = some (.commit d)) :
    ∃ name, step = .write name .commit ∧ s.outlook.held name = some d := by
  cases step with
  | ask c plain =>
      cases h
      cases plain
  | write name w =>
      rw [call?] at h
      obtain ⟨d', hd', hcall⟩ := Option.map_eq_some_iff.1 h
      cases w <;> cases hcall
      exact ⟨name, rfl, hd'⟩
  | _ => cases h

/-- **What can become of a stored operation in a step.** It stays as it is, or it is deleted, which
takes that no entry names it, or a commit puts the last version of its draft in its place. -/
theorem stored_take (hs : s.backend = Memory.backend) (step : Step) {id : OperationId} {op : Operation}
    (hop : s.store.store.operations.get? id = some op) :
    let m' := (s.take step).store.store
    m'.operations.get? id = some op ∨
    (m'.operations.get? id = none ∧ s.store.store.usesOperation id = false ∧
      ∃ plain, step = .ask (.deleteOperation id) plain) ∨
    ∃ name d op', step = .write name .commit ∧ s.outlook.held name = some d ∧
      s.store.store.Accepts d ∧ (d.operations.reverse.find? fun op => id = op.id) = some op' ∧
        m'.operations.get? id = some op' := by
  intro m'
  rcases store_take hs step with hsame | ⟨c, hcall, hchanged⟩
  · refine Or.inl ?_
    show (s.take step).store.store.operations.get? id = some op
    rwa [hsame]
  have heffect := Memory.effect_answer s.store.store c
  have hm' : m' = (s.store.store.answer c).2 := hchanged
  rw [← hm'] at heffect
  clear_value m'
  cases heffect with
  | @deleteOperation id' op' unused stored =>
      by_cases hid : id = id'
      · cases hid
        exact Or.inr (Or.inl ⟨Table.get?_erase_self _ _, unused, call?_deleteOperation hcall⟩)
      · exact Or.inl ((Table.get?_erase_of_ne _ hid).trans hop)
  | @commit d taken references entries =>
      have hoperations := (s.store.store.takes_apply d).operations id
      cases hfind : d.operations.reverse.find? fun op => id = op.id with
      | none =>
          rw [hfind] at hoperations
          exact Or.inl (hoperations.trans hop)
      | some op' =>
          rw [hfind] at hoperations
          obtain ⟨name, hstep, hd⟩ := call?_commit hcall
          exact Or.inr (Or.inr ⟨name, d, op', hstep, hd, (Memory.commit_eq_ok_iff.1 taken).1, hfind,
            hoperations⟩)
  | _ => exact Or.inl hop

/-- A reference under which another operation is found is refused. -/
theorem refused_of_found {m : Memory} (hm : m.Intact) {op known : Operation}
    (hfound : m.findByReference op.reference = some known) (hother : known.id ≠ op.id) (d : MemoryDraft) :
    m.insertOperation d op = .error (.duplicateReference op.reference.text) ∧
      (op ∈ d.operations → ¬ m.Accepts d) := by
  rw [Memory.findByReference] at hfound
  obtain ⟨owner, howner, hknown⟩ := Option.bind_eq_some_iff.1 hfound
  have hne : owner ≠ op.id := fun h => hother ((hm.operations hknown).trans h)
  constructor
  · have hcheck : m.checkReference op = .error (.duplicateReference op.reference.text) := by
      rw [Memory.checkReference, howner]
      exact if_neg hne
    rw [Memory.insertOperation, hcheck]
    rfl
  · exact fun hop haccepts => hne (haccepts.references op hop owner howner)

/-- **Stored operations advance as long as those who write are careful.** Otherwise they are what the
last accepted draft says. In any case a reference that leads to one operation is refused to another. -/
theorem operations_kept (settings : Settings) (steps : List Step) :
    let s := (onMemory settings).follow steps
    let m := s.store.store
    (∀ more, (onMemory settings).Careful (steps ++ more) → ∀ id op, m.operations.get? id = some op →
      s.Stays id more →
        ∃ op', (s.follow more).store.store.operations.get? id = some op' ∧ op.Advances op') ∧
    (∀ step id op, m.operations.get? id = some op →
      let m' := (s.take step).store.store
      m'.operations.get? id = some op ∨
      (m'.operations.get? id = none ∧ m.usesOperation id = false ∧
        ∃ plain, step = .ask (.deleteOperation id) plain) ∨
      ∃ name d op', step = .write name .commit ∧ s.outlook.held name = some d ∧ m.Accepts d ∧
        (d.operations.reverse.find? fun op => id = op.id) = some op' ∧
          m'.operations.get? id = some op') ∧
    ∀ op known, m.findByReference op.reference = some known → known.id ≠ op.id → ∀ d,
      m.insertOperation d op = .error (.duplicateReference op.reference.text) ∧
        (op ∈ d.operations → ¬ m.Accepts d) := by
  intro s m
  have hs : s.backend = Memory.backend := backend_follow _ steps
  have hm : m.Intact := intact_follow rfl .empty steps
  have hempty : (onMemory settings).outlook.Orderly := Outlook.Orderly.empty
  refine ⟨?_, fun step id op => stored_take hs step, fun op known => refused_of_found hm⟩
  intro more hcareful id op hop hstays
  obtain ⟨hbefore, hafter⟩ := careful_append hcareful
  exact advances_follow hs (orderly_follow rfl hempty hbefore) hafter hop hstays

/-- The operation in a final status. -/
def finished (op : Operation) (status : Operation.Status) : Operation :=
  { op with status := status, processedAt := some (.ofNanos 1) }

/-- A draft is opened and an operation updated in it. -/
def updating (name : String) (op : Operation) : List Step :=
  [.openDraft name, .write name (.updateOperation op)]

def committing (name : String) : List Step :=
  [.write name .commit]

theorem unheld_of_all {id : OperationId}
    (h : (s.drafts.all fun draft => draft.2.operations.all fun op => op.id != id) = true) :
    s.outlook.Unheld id := by
  intro name d hd op hop
  obtain ⟨before, after, hdrafts, -⟩ := List.lookup_eq_some_iff.1 hd
  have hmem : (name, d) ∈ s.drafts := by
    rw [hdrafts]
    simp
  have hother := List.all_eq_true.1 (List.all_eq_true.1 h _ hmem) op hop
  exact bne_iff_ne.1 hother

/-- A deposit is booked and finished. -/
def settled : List Step :=
  inserting "w" 1 keyA ++ committing "w" ++ updating "v" (finished (deposit 1 keyA) .processed) ++
    committing "v"

theorem operations_kept_settled :
    (onMemory .default).Careful settled ∧
      ∃ op, ((onMemory .default).follow settled).store.store.operations.get? ⟨⟨1⟩⟩ = some op ∧
        (deposit 1 keyA).Advances op := by
  have hcareful : (onMemory .default).Careful settled := by
    refine ⟨fun _ => trivial, fun _ => ⟨rfl, unheld_of_all rfl⟩, fun _ => trivial, fun _ => trivial,
      fun _ => Or.inr ⟨⟨deposit 1 keyA, rfl, ?_⟩, unheld_of_all rfl⟩, fun _ => trivial, trivial⟩
    exact ⟨rfl, rfl, rfl, rfl, nofun⟩
  obtain ⟨hadvances, -⟩ := operations_kept .default (settled.take 3)
  exact ⟨hcareful, hadvances (settled.drop 3) hcareful ⟨⟨1⟩⟩ (deposit 1 keyA) rfl ⟨rfl, rfl, rfl, trivial⟩⟩

/-- **Without care stored operations are rewritten and reopened.** A finished deposit is put back into
processing, it is finished a second time by a draft that was written before the first was committed, an
update makes a withdrawal of it, and a withdrawal with another reference takes its id. -/
theorem operations_rewritten :
    let stored := fun steps => ((onMemory .default).follow steps).store.store.operations.get? ⟨⟨1⟩⟩
    let withdrawal := fun r => { deposit 1 r with kind := .withdrawal }
    let failing := settled.take 5 ++ updating "u" (finished (deposit 1 keyA) .failed)
    stored settled = some (finished (deposit 1 keyA) .processed) ∧
    stored (settled ++ updating "u" (deposit 1 keyA) ++ committing "u") = some (deposit 1 keyA) ∧
    stored (failing ++ committing "v") = some (finished (deposit 1 keyA) .processed) ∧
    stored (failing ++ committing "v" ++ committing "u") = some (finished (deposit 1 keyA) .failed) ∧
    stored (settled.take 3 ++ updating "u" (withdrawal keyA) ++ committing "u") = some (withdrawal keyA) ∧
    stored (settled ++ [.openDraft "u", .write "u" (.insertOperation (withdrawal keyB)),
      .write "u" .commit]) = some (withdrawal keyB) :=
  ⟨rfl, rfl, rfl, rfl, rfl, rfl⟩

end Session
end Daybook
