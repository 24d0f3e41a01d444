import Daybook.Proofs.Booking.Order
import Daybook.Proofs.Money.Canonical
import Daybook.Proofs.Money.Rounding
import Daybook.Proofs.Reference.Grammar

/-!
Which commands become orders, and which orders. A command has to keep seven rules (`Command.Rule`); it is
refused for the first that it breaks, and otherwise it becomes the one order that it describes
(`Command.check_exact`).
-/

namespace Daybook.Command

variable {c : Command} {currency : Currency} {defaultSource : String} {o o' : Order} {e e' : Error}

/-! ### What is asked for -/

/-- The reference is of the format, the kind is given and so are the accounts that it needs, a transfer's
two different ones, and the amount is not rounded out of range. -/
structure Bookable (c : Command) : Prop where
  reference : Database.KeyFormat (Text.trim c.reference)
  movement : ∃ mv, c.Asks mv ∧ ∀ a b, mv = .transfer a b → a ≠ b
  positive : 0.00005 ≤ c.amount.value
  inRange : c.amount.value < 999999999999999.99995

/-- The order that the command describes. -/
structure Describes (c : Command) (currency : Currency) (defaultSource : String) (o : Order) : Prop where
  reference : o.reference.text = Text.trim c.reference
  movement : c.Asks o.movement
  rounded : RoundsAway 4 c.amount.value o.amount.value
  scale : o.amount.amount.scale = 4
  currency_eq : o.amount.currency = currency
  positive : 0 < o.amount.value
  small : o.amount.value < 10 ^ 15
  tag : ∀ tag, c.source = some tag → Text.trim tag ≠ "" → o.source = Text.trim tag
  noTag : (∀ tag, c.source = some tag → Text.trim tag = "") → o.source = defaultSource

theorem Asks.unique {mv mv' : Movement} (h : c.Asks mv) (h' : c.Asks mv') : mv = mv' := by
  cases mv <;> cases mv' <;> simp only [Asks] at h h' <;> simp_all

theorem Describes.unique (h : c.Describes currency defaultSource o)
    (h' : c.Describes currency defaultSource o') : o = o' := by
  have hreference : o.reference = o'.reference := Reference.ext (h.reference.trans h'.reference.symm)
  have hmovement : o.movement = o'.movement := h.movement.unique h'.movement
  have hplain : ∀ {m : Money}, 0 < m.value → m.amount.Plain := fun hm =>
    Decimal.plain_of_signed ((Decimal.value_pos_iff _).1 hm).ne'
  have hamount : o.amount = o'.amount :=
    Money.eq_of_value (hplain h.positive) (hplain h'.positive)
      (h.currency_eq.trans h'.currency_eq.symm) (h.rounded.unique h'.rounded)
  have hsource : o.source = o'.source := by
    by_cases hblank : ∀ tag, c.source = some tag → Text.trim tag = ""
    · rw [h.noTag hblank, h'.noTag hblank]
    · push Not at hblank
      obtain ⟨tag, htag, hne⟩ := hblank
      rw [h.tag tag htag hne, h'.tag tag htag hne]
  cases o
  cases o'
  simp_all

/-! ### What can be wrong -/

/-- The rules for commands, in the order in which a caller learns of them. -/
inductive Rule where
  | reference | kind | positivity | range | sourceAccount | targetAccount | distinct
deriving DecidableEq

def Rule.rank : Rule → Nat
  | .reference => 0
  | .kind => 1
  | .positivity => 2
  | .range => 3
  | .sourceAccount => 4
  | .targetAccount => 5
  | .distinct => 6

/-- The command breaks the rule, and the error names what is wrong. -/
inductive Breaks (c : Command) : Rule → Error → Prop where
  | reference {cause : ReferenceError} (h : Reference.Faulty c.reference cause) :
      Breaks c .reference (.invalidReference cause)
  | kind (h : c.kind = none) : Breaks c .kind .missingKind
  | positivity (h : c.amount.value < 0.00005) : Breaks c .positivity (.nonPositiveAmount c.amount)
  | range (h : 999999999999999.99995 ≤ c.amount.value) : Breaks c .range (.amountOutOfRange c.amount)
  | sourceAccount (hkind : c.kind = some .withdrawal ∨ c.kind = some .transfer)
      (h : c.sourceAccount = none) : Breaks c .sourceAccount .missingSourceAccount
  | targetAccount (hkind : c.kind = some .deposit ∨ c.kind = some .transfer)
      (h : c.targetAccount = none) : Breaks c .targetAccount .missingTargetAccount
  | distinct {a : AccountId} (hkind : c.kind = some .transfer) (hsource : c.sourceAccount = some a)
      (htarget : c.targetAccount = some a) : Breaks c .distinct (.sameAccountTransfer a)

/-- The command keeps the first `n` rules. -/
def Keeps (c : Command) (n : Nat) : Prop :=
  ∀ rule e, c.Breaks rule e → n ≤ rule.rank

/-- The command breaks a rule with this error, and keeps those before it. -/
def BreaksFirst (c : Command) (e : Error) : Prop :=
  ∃ rule, c.Breaks rule e ∧ c.Keeps rule.rank

theorem Rule.rank_injective {r r' : Rule} (h : r.rank = r'.rank) : r = r' := by
  cases r <;> cases r' <;> first | rfl | cases h

theorem Keeps.next {rule : Rule} (h : c.Keeps rule.rank) (hkeeps : ∀ e, ¬ c.Breaks rule e) :
    c.Keeps (rule.rank + 1) := by
  intro rule' e hbreaks
  refine Nat.lt_of_le_of_ne (h rule' e hbreaks) fun hrank => hkeeps e ?_
  rw [Rule.rank_injective hrank]
  exact hbreaks

/-- A rule is broken in one way. -/
theorem Breaks.unique {rule : Rule} (h : c.Breaks rule e) (h' : c.Breaks rule e') : e = e' := by
  cases h with
  | reference h =>
      obtain ⟨h'⟩ := h'
      have := (Reference.parse_of_faulty h).symm.trans (Reference.parse_of_faulty ‹_›)
      cases this
      rfl
  | distinct _ hsource _ =>
      cases h' with
      | distinct _ hsource' _ =>
          rw [hsource] at hsource'
          cases hsource'
          rfl
  | _ =>
      cases h'
      rfl

theorem BreaksFirst.unique (h : c.BreaksFirst e) (h' : c.BreaksFirst e') : e = e' := by
  obtain ⟨rule, hbreaks, hfirst⟩ := h
  obtain ⟨rule', hbreaks', hfirst'⟩ := h'
  have hrule : rule = rule' :=
    Rule.rank_injective (Nat.le_antisymm (hfirst _ _ hbreaks') (hfirst' _ _ hbreaks))
  subst hrule
  exact hbreaks.unique hbreaks'

/-- A command that can be booked breaks no rule. -/
theorem Bookable.not_breaks (h : c.Bookable) (rule : Rule) : ¬ c.Breaks rule e := by
  obtain ⟨mv, hasks, hdistinct⟩ := h.movement
  intro hbreaks
  cases hbreaks with
  | reference hfaulty => exact hfaulty.not_keyFormat h.reference
  | kind hkind => cases mv <;> simp_all [Asks]
  | positivity hsmall => exact absurd h.positive (not_le.2 hsmall)
  | range hlarge => exact absurd h.inRange (not_lt.2 hlarge)
  | sourceAccount hkind hnone => cases mv <;> simp_all [Asks]
  | targetAccount hkind hnone => cases mv <;> simp_all [Asks]
  | distinct hkind hsource htarget =>
      cases mv with
      | deposit target => cases hkind.symm.trans hasks.1
      | withdrawal source => cases hkind.symm.trans hasks.1
      | transfer a b =>
          obtain ⟨-, ha, hb⟩ := hasks
          have hsame := (ha.symm.trans hsource).trans (htarget.symm.trans hb)
          exact hdistinct a b rfl (Option.some.inj hsame)

/-! ### What checking does -/

theorem source_of_check (h : c.check currency defaultSource = .ok o) :
    o.source = effectiveSource c.source defaultSource := by
  obtain ⟨reference, -, h⟩ := except_bind_eq_ok.1 h
  obtain ⟨kind, -, h⟩ := except_bind_eq_ok.1 h
  obtain ⟨amount, -, h⟩ := except_bind_eq_ok.1 h
  obtain ⟨movement, -, h⟩ := except_bind_eq_ok.1 h
  cases h
  rfl

theorem effectiveSource_of_tag {tag : String} (h : Text.trim tag ≠ "") :
    effectiveSource (some tag) defaultSource = Text.trim tag := by
  have hempty : (Text.trim tag).isEmpty = false := by simpa using h
  simp [effectiveSource, hempty]

theorem effectiveSource_of_blank {source : Option String}
    (h : ∀ tag, source = some tag → Text.trim tag = "") :
    effectiveSource source defaultSource = defaultSource := by
  cases source with
  | none => rfl
  | some tag => simp [effectiveSource, h tag rfl]

/-- An order comes from a command that can be booked, and it is the one that the command describes. -/
theorem of_check_eq_ok (h : c.check currency defaultSource = .ok o) :
    c.Bookable ∧ c.Describes currency defaultSource o := by
  obtain ⟨hparse, -, hamount, hvalid⟩ := check_eq_ok h
  have hasks := check_asks h
  have hpositive := (Money.isPositive_iff_value _).1 hvalid.positive
  have hsmall := (abs_lt.1 ((Money.isStorable_iff _).1 hvalid.storable)).2
  have hstorable := hvalid.storable
  have hnew := hvalid.positive
  rw [hamount] at hnew hstorable hpositive
  refine ⟨⟨Reference.exists_parse_iff.1 ⟨_, hparse⟩, ⟨_, hasks, fun _ _ => hvalid.distinct⟩,
    (Money.isPositive_new _ _).1 hnew, (Money.isStorable_new hpositive.le).1 hstorable⟩, ?_⟩
  exact {
    reference := Reference.parse_eq_ok_iff.1 hparse
    movement := hasks
    rounded := by
      rw [hamount]
      exact Money.roundsAway_new _ _
    scale := Money.scale_of_isStorable hvalid.storable
    currency_eq := hvalid.currency_eq
    positive := (Money.isPositive_iff_value _).1 hvalid.positive
    small := hsmall
    tag := fun tag htag hne => by rw [source_of_check h, htag, effectiveSource_of_tag hne]
    noTag := fun hblank => by rw [source_of_check h, effectiveSource_of_blank hblank] }

theorem keeps_kind {r : Reference} (h : Reference.parse c.reference = .ok r) :
    c.Keeps Rule.kind.rank := by
  have hnone : c.Keeps Rule.reference.rank := fun _ _ _ => Nat.zero_le _
  refine hnone.next fun e hbreaks => ?_
  cases hbreaks with
  | reference hfaulty => cases h.symm.trans (Reference.parse_of_faulty hfaulty)

theorem keeps_positivity {kind : Operation.Kind} (hkeeps : c.Keeps Rule.kind.rank)
    (h : c.kind = some kind) : c.Keeps Rule.positivity.rank := by
  refine hkeeps.next fun e hbreaks => ?_
  cases hbreaks with
  | kind hnone => cases hnone.symm.trans h

theorem keeps_range (hkeeps : c.Keeps Rule.positivity.rank)
    (h : (Money.new c.amount currency).isPositive = true) : c.Keeps Rule.range.rank := by
  refine hkeeps.next fun e hbreaks => ?_
  cases hbreaks with
  | positivity hsmall => exact absurd ((Money.isPositive_new _ _).1 h) (not_le.2 hsmall)

theorem keeps_sourceAccount (hkeeps : c.Keeps Rule.positivity.rank) {amount : Money}
    (h : checkAmount c.amount currency = .ok amount) : c.Keeps Rule.sourceAccount.rank := by
  obtain ⟨rfl, hpositive, hstorable⟩ := checkAmount_eq_ok h
  refine (keeps_range hkeeps hpositive).next fun e hbreaks => ?_
  have hvalue := (Money.isPositive_iff_value _).1 hpositive
  cases hbreaks with
  | range hlarge => exact absurd ((Money.isStorable_new hvalue.le).1 hstorable) (not_lt.2 hlarge)

/-- The amount is refused for one of its two rules, positivity first. -/
theorem breaksFirst_of_checkAmount (hkeeps : c.Keeps Rule.positivity.rank)
    (h : checkAmount c.amount currency = .error e) : c.BreaksFirst e := by
  rw [checkAmount] at h
  split_ifs at h with hpositive hstorable
  · cases h
    refine ⟨.positivity, .positivity (not_le.1 fun hle => ?_), hkeeps⟩
    rw [(Money.isPositive_new c.amount currency).2 hle] at hpositive
    cases hpositive
  · cases h
    have hnew : (Money.new c.amount currency).isPositive = true := by simpa using hpositive
    refine ⟨.range, .range (not_lt.1 fun hlt => ?_), keeps_range hkeeps hnew⟩
    rw [(Money.isStorable_new ((Money.isPositive_iff_value _).1 hnew).le).2 hlt] at hstorable
    cases hstorable

/-- The accounts are refused for one of their three rules, the first that they break. -/
theorem breaksFirst_of_checkMovement {kind : Operation.Kind} (hkeeps : c.Keeps Rule.sourceAccount.rank)
    (hkind : c.kind = some kind)
    (h : checkMovement kind c.sourceAccount c.targetAccount = .error e) : c.BreaksFirst e := by
  cases kind with
  | deposit =>
      rcases except_bind_eq_error.1 h with h | ⟨_, -, h⟩
      · obtain ⟨hnone, rfl⟩ := orElse_eq_error_iff.1 h
        refine ⟨.targetAccount, .targetAccount (Or.inl hkind) hnone, hkeeps.next fun e' hbreaks => ?_⟩
        -- a deposit needs no account to take from
        cases hbreaks with
        | sourceAccount hother _ => rcases hother with hother | hother <;> cases hkind.symm.trans hother
      · cases h
  | withdrawal =>
      rcases except_bind_eq_error.1 h with h | ⟨_, -, h⟩
      · obtain ⟨hnone, rfl⟩ := orElse_eq_error_iff.1 h
        exact ⟨.sourceAccount, .sourceAccount (Or.inl hkind) hnone, hkeeps⟩
      · cases h
  | transfer =>
      rcases except_bind_eq_error.1 h with h | ⟨source, hsource, h⟩
      · obtain ⟨hnone, rfl⟩ := orElse_eq_error_iff.1 h
        exact ⟨.sourceAccount, .sourceAccount (Or.inr hkind) hnone, hkeeps⟩
      have hsome := orElse_eq_ok hsource
      have hkeepsSource : c.Keeps Rule.targetAccount.rank := by
        refine hkeeps.next fun e' hbreaks => ?_
        cases hbreaks with
        | sourceAccount _ hnone => cases hnone.symm.trans hsome
      rcases except_bind_eq_error.1 h with h | ⟨target, htarget, h⟩
      · obtain ⟨hnone, rfl⟩ := orElse_eq_error_iff.1 h
        exact ⟨.targetAccount, .targetAccount (Or.inr hkind) hnone, hkeepsSource⟩
      have hsome' := orElse_eq_ok htarget
      have hkeepsTarget : c.Keeps Rule.distinct.rank := by
        refine hkeepsSource.next fun e' hbreaks => ?_
        cases hbreaks with
        | targetAccount _ hnone => cases hnone.symm.trans hsome'
      split_ifs at h with hsame
      · cases h
        exact ⟨.distinct, .distinct hkind hsome (hsame ▸ hsome'), hkeepsTarget⟩
      · cases h

/-- A command is refused for the first rule that it breaks. -/
theorem breaksFirst_of_check (h : c.check currency defaultSource = .error e) : c.BreaksFirst e := by
  rcases except_bind_eq_error.1 h with hreference | ⟨reference, hreference, h⟩
  · obtain ⟨cause, hcause, rfl⟩ := mapError_eq_error_iff.1 hreference
    exact ⟨.reference, .reference (Reference.faulty_of_parse hcause), fun _ _ _ => Nat.zero_le _⟩
  have hkeeps := keeps_kind (mapError_eq_ok_iff.1 hreference)
  rcases except_bind_eq_error.1 h with hkind | ⟨kind, hkind, h⟩
  · obtain ⟨hnone, rfl⟩ := orElse_eq_error_iff.1 hkind
    exact ⟨.kind, .kind hnone, hkeeps⟩
  have hgiven := orElse_eq_ok hkind
  have hkeepsKind := keeps_positivity hkeeps hgiven
  rcases except_bind_eq_error.1 h with hamount | ⟨amount, hamount, h⟩
  · exact breaksFirst_of_checkAmount hkeepsKind hamount
  have hkeepsAmount := keeps_sourceAccount hkeepsKind hamount
  rcases except_bind_eq_error.1 h with hmovement | ⟨movement, -, h⟩
  · exact breaksFirst_of_checkMovement hkeepsAmount hgiven hmovement
  · cases h

/-- **A command is booked or refused by its rules.** It becomes an order exactly when it keeps them all,
and the order is the one that it describes; otherwise it is refused for the first one that it breaks. -/
theorem check_exact (c : Command) (currency : Currency) (defaultSource : String) :
    ((∃ o, c.check currency defaultSource = .ok o) ↔ c.Bookable) ∧
      (∀ o, c.check currency defaultSource = .ok o ↔ c.Bookable ∧ c.Describes currency defaultSource o) ∧
      ∀ e, c.check currency defaultSource = .error e ↔ c.BreaksFirst e := by
  cases hcheck : c.check currency defaultSource with
  | ok o =>
      obtain ⟨hbookable, hdescribes⟩ := of_check_eq_ok hcheck
      refine ⟨⟨fun _ => hbookable, fun _ => ⟨o, rfl⟩⟩, fun o' => ⟨?_, fun h => ?_⟩, fun e => ⟨nofun, ?_⟩⟩
      · rintro ⟨⟩
        exact ⟨hbookable, hdescribes⟩
      · rw [hdescribes.unique h.2]
      · rintro ⟨rule, hbreaks, -⟩
        exact absurd hbreaks (hbookable.not_breaks rule)
  | error e =>
      have hfirst := breaksFirst_of_check hcheck
      have hrefused : ¬ c.Bookable := by
        obtain ⟨rule, hbreaks, -⟩ := hfirst
        exact fun hbookable => hbookable.not_breaks rule hbreaks
      refine ⟨⟨fun ⟨o, ho⟩ => (nomatch ho), fun h => absurd h hrefused⟩,
        fun o => ⟨nofun, fun h => absurd h.1 hrefused⟩, fun e' => ⟨?_, fun h => ?_⟩⟩
      · rintro ⟨⟩
        exact hfirst
      · rw [hfirst.unique h]

end Daybook.Command
