import Daybook.Command
import Daybook.Proofs.Database.RoundTrip
import Daybook.Proofs.Decimal.Written
import Daybook.Proofs.Id.Written
import Daybook.Proofs.Money.Canonical
import Daybook.Proofs.Money.Parse
import Daybook.Proofs.Time.Written

/-!
Values that are written and read again: amounts as text and in JSON, and references, accounts and commands
in JSON (`written_lossless`). Two things are lost (`written_lossy`): a leap second that is not the last of
its minute, and the sign of a zero. No comparison sees that sign; of the checks of a command only the one
of its sign shows the amount as it was given (`Command.check_plain`).
-/

namespace Daybook

/-! ### Names -/

theorem Currency.ofJson_toJson (c : Currency) : Named.ofJson? (Named.toJson c) = some c :=
  Named.find?_name (by cases c <;> decide) code_injective

theorem Operation.Kind.ofJson_toJson (k : Operation.Kind) : Named.ofJson? (Named.toJson k) = some k :=
  Named.find?_name (by cases k <;> decide) name_injective

theorem Account.Kind.ofJson_toJson (k : Account.Kind) : Named.ofJson? (Named.toJson k) = some k :=
  Named.find?_name (by cases k <;> decide) name_injective

/-! ### Amounts -/

namespace Decimal

theorem ofJson_toJson (d : Decimal) : ofJson? d.toJson = some d.plain :=
  d.ofText_toText

theorem plain_of_plain {d : Decimal} (h : d.Plain) : d.plain = d := by
  cases d with
  | mk negative mantissa scale hm hs =>
      have hsign : (negative && mantissa != 0) = negative := by
        by_cases hzero : mantissa = 0
        · have hnone : negative = false := h (beq_iff_eq.2 hzero)
          rw [hnone, Bool.false_and]
        · rw [bne_iff_ne.2 hzero, Bool.and_true]
      simp only [plain, hsign]

theorem same_plain (d : Decimal) : d.plain.same d = true :=
  (same_iff _ _).2 d.value_plain

end Decimal

namespace Money

/-- The same amount; zero has no sign. -/
def plain (m : Money) : Money :=
  ⟨m.amount.plain, m.currency, m.settled⟩

theorem same_plain (m : Money) : m.plain.same m = true :=
  (same_iff _ _).2 ⟨m.amount.value_plain, rfl⟩

theorem new_plain (m : Money) : new m.amount.plain m.currency = m.plain :=
  new_self m.plain

theorem parse_toText (m : Money) : parse m.amount.toText m.currency = .ok m.plain := by
  have hshows : m.amount.written.Shows m.amount.toText := by
    refine ⟨[], [], ?_, List.forall_mem_nil _, List.forall_mem_nil _⟩
    rw [Decimal.toText, String.toList_ofList, Decimal.toChars_eq, List.nil_append, List.append_nil]
  rw [parse, Decimal.ofText?, Decimal.Numeral.trim_of_shows hshows, ← Decimal.toChars_eq,
    Decimal.ofChars_toChars]
  exact congrArg Except.ok m.new_plain

theorem ofJson_toJson (m : Money) : ofJson? m.toJson = some m.plain := by
  have hfields : m.toJson.fields? ["amount", "currency"] =
      some [some m.amount.toJson, some (Named.toJson m.currency)] := rfl
  rw [ofJson?, hfields]
  simp only [Option.bind_eq_bind, Option.bind_some, Json.required, Decimal.ofJson_toJson,
    Currency.ofJson_toJson, new_plain]

end Money

/-! ### References and accounts -/

theorem Reference.ofJson_toJson (r : Reference) : ofJson r.toJson = .ok r :=
  mapError_eq_ok_iff.2 (parse_eq_ok_iff.2 r.trim_text.symm)

/-- Of an account only the time may be read as another one. -/
theorem Account.ofJson_toJson (a : Account) :
    ofJson? a.toJson = (Time.ofText? a.createdAt.toText).map fun t => { a with createdAt := t } := by
  have hfields : a.toJson.fields? ["id", "kind", "created_at"] =
      some [some a.id.toJson, some (Named.toJson a.kind), some a.createdAt.toJson] := rfl
  rw [ofJson?, hfields]
  simp only [Option.bind_eq_bind, Option.bind_some, Json.required, Id.ofJson_toJson,
    Account.Kind.ofJson_toJson, Time.ofJson_toJson]
  cases Time.ofText? a.createdAt.toText <;> rfl

theorem Account.ofJson_toJson_iff (a : Account) :
    ofJson? a.toJson = some a ↔ Time.ofText? a.createdAt.toText = some a.createdAt := by
  rw [a.ofJson_toJson]
  cases Time.ofText? a.createdAt.toText with
  | none => simp
  | some t =>
      cases a
      simp

/-! ### Commands -/

namespace Command

/-- The same command; an amount of zero has no sign. -/
def plain (c : Command) : Command :=
  { c with amount := c.amount.plain }

theorem ofJson_toJson (c : Command) : ofJson? c.toJson = some c.plain := by
  have hfields : c.toJson.fields?
      ["reference", "kind", "source_account", "target_account", "amount", "source"] =
      some [some (.string c.reference), some (Json.option Named.toJson c.kind),
        some (Json.option Id.toJson c.sourceAccount), some (Json.option Id.toJson c.targetAccount),
        some c.amount.toJson, some (Json.option Json.string c.source)] := rfl
  have hkind := Json.optional_option Operation.Kind.ofJson_toJson Named.toJson_ne_null c.kind
  have hid : ∀ id? : Option AccountId,
      Json.optional Id.ofJson? (some (Json.option Id.toJson id?)) = some id? :=
    Json.optional_option Id.ofJson_toJson Id.toJson_ne_null
  have hsource : ∀ tag? : Option String,
      Json.optional Json.string? (some (Json.option Json.string tag?)) = some tag? :=
    Json.optional_option (fun _ => rfl) fun _ => Json.noConfusion
  rw [ofJson?, hfields]
  simp only [Option.bind_eq_bind, Option.bind_some, hkind, hid, hsource, Json.required, Json.string?,
    Decimal.ofJson_toJson]
  rfl

variable {c : Command} {currency : Currency} {defaultSource : String}

/-- The two results are one, or both refuse an amount of zero and show it with the sign it was given. -/
theorem check_plain (c : Command) (currency : Currency) (defaultSource : String) :
    c.plain.check currency defaultSource = c.check currency defaultSource ∨
      (c.amount.isZero = true ∧
        c.check currency defaultSource = .error (.nonPositiveAmount c.amount) ∧
        c.plain.check currency defaultSource = .error (.nonPositiveAmount c.amount.plain)) := by
  by_cases hplain : c.amount.Plain
  · left
    rw [plain, Decimal.plain_of_plain hplain]
  · have hzero : c.amount.isZero = true := by
      by_contra hne
      exact hplain fun h => absurd h hne
    have hrefused : ∀ d : Decimal, d.value = c.amount.value →
        checkAmount d currency = .error (.nonPositiveAmount d) := by
      intro d hd
      have hpositive : (Money.new d currency).isPositive = false := by
        rw [Bool.eq_false_iff, ne_eq, Money.isPositive_new, hd, c.amount.value_eq_zero_iff.2 hzero]
        norm_num
      simp [checkAmount, hpositive]
    have hc := hrefused c.amount rfl
    have hplainAmount := hrefused c.amount.plain c.amount.value_plain
    simp only [check, plain, hc, hplainAmount]
    cases (Reference.parse c.reference).mapError Error.invalidReference with
    | error e => exact Or.inl rfl
    | ok r =>
        cases orElse .missingKind c.kind with
        | error e => exact Or.inl rfl
        | ok kind => exact Or.inr ⟨hzero, rfl, rfl⟩

end Command

/-! ### All of them -/

/-- A clock shows no leap seconds. -/
theorem Time.proper_ofNanos (n : Int) : (ofNanos n).Proper := by
  left
  simp only [ofNanos]
  omega

/-- **What is written is read as it was.** An amount comes back from its text and from JSON, equal by value
and in its currency, and a reference comes back as it was. An account of a year of four digits does exactly
if its leap second, where it has one, is the last second of a minute, which holds of every moment that comes
from a text or a clock. A command comes back in every field, its amount by value, and is checked with the
same result, one order or one error; only a refused zero is shown without its sign. -/
theorem written_lossless :
    (∀ m : Money, ∃ m', Money.parse m.amount.toText m.currency = .ok m' ∧
      Money.ofJson? m.toJson = some m' ∧ m'.same m = true) ∧
    (∀ r : Reference, Reference.ofJson r.toJson = .ok r) ∧
    (∀ a : Account, 0 ≤ a.createdAt.year ∧ a.createdAt.year ≤ 9999 →
      (Account.ofJson? a.toJson = some a ↔ a.createdAt.Proper)) ∧
    ((∀ text t, Time.ofText? text = some t → t.Proper) ∧ ∀ n, (Time.ofNanos n).Proper) ∧
    ∀ c : Command, ∃ d, Command.ofJson? c.toJson = some { c with amount := d } ∧ d.same c.amount = true ∧
      ∀ currency defaultSource,
        Command.check { c with amount := d } currency defaultSource = c.check currency defaultSource ∨
          (c.amount.isZero = true ∧ c.check currency defaultSource = .error (.nonPositiveAmount c.amount) ∧
            Command.check { c with amount := d } currency defaultSource = .error (.nonPositiveAmount d)) := by
  refine ⟨fun m => ⟨m.plain, m.parse_toText, m.ofJson_toJson, m.same_plain⟩, Reference.ofJson_toJson,
    fun a hyear => ?_, ⟨fun _ _ => Time.proper_of_ofChars, Time.proper_ofNanos⟩, fun c => ?_⟩
  · exact a.ofJson_toJson_iff.trans (Time.ofText_toText_iff hyear)
  · exact ⟨c.amount.plain, c.ofJson_toJson, c.amount.same_plain, c.check_plain⟩

/-- An account of 1970 with a leap second in the first second of a minute is read with the second after it,
and a deposit of minus zero is refused with another amount once it is read again. -/
theorem written_lossy :
    (∃ a b : Account, a.createdAt = ⟨0, 1500000000, by decide⟩ ∧ a.createdAt.year = 1970 ∧
      Account.ofJson? a.toJson = some b ∧ b.createdAt = ⟨1, 500000000, by decide⟩ ∧ b ≠ a) ∧
    ∃ c d : Command, Command.ofJson? c.toJson = some d ∧
      c.check .brl "api" = .error (.nonPositiveAmount ⟨true, 0, 0, by decide, by decide⟩) ∧
      d.check .brl "api" = .error (.nonPositiveAmount ⟨false, 0, 0, by decide, by decide⟩) := by
  have hread : Time.ofText? (Time.toText ⟨0, 1500000000, by decide⟩) = some ⟨1, 500000000, by decide⟩ := by
    rw [Time.ofText?, Time.toText, String.toList_ofList, Time.ofChars_toChars (by decide)]
    decide
  constructor
  · refine ⟨⟨⟨Uuid.nil⟩, .user, ⟨0, 1500000000, by decide⟩⟩, ⟨⟨Uuid.nil⟩, .user, ⟨1, 500000000, by decide⟩⟩,
      rfl, by decide, ?_, rfl, by decide⟩
    rw [Account.ofJson_toJson, hread, Option.map_some]
  · exact ⟨.deposit "A" ⟨Uuid.nil⟩ ⟨true, 0, 0, by decide, by decide⟩, _, Command.ofJson_toJson _, rfl, rfl⟩

end Daybook
