import Daybook.CommandLine
import Daybook.Decimal.Json
import Daybook.Power
import Daybook.Simulation.Scenario

/-!
The command line of the simulator: options that concern all scenarios, the name of a scenario, and
its options. Words are read from left to right. The word behind an option is its value unless it
looks like an option itself; a value is looked at when the next option comes or the line ends, and
so a later unknown word can be reported before an earlier bad value.
-/

namespace Daybook.Simulation

/-- Why a command line is not carried out. -/
inductive ArgumentError where
  /-- It asks for help. -/
  | help
  /-- It asks for the version. -/
  | version
  | nothingGiven
  | noScenario
  | unknownScenario
  | unknownArgument
  /-- The value cannot be read. -/
  | invalidValue
  /-- The value is none of the possible ones. -/
  | unknownValue
  | missingValue
  /-- An option that takes no value has one. -/
  | needlessValue
  | repeated
deriving DecidableEq

/-- An option of a scenario. -/
inductive Setting where
  | reference | kind | sourceAccount | targetAccount | amount | repetitions | delay | inMemory
deriving DecidableEq

/-- An option that takes a value, by its long name and perhaps a letter. -/
structure Switch where
  setting : Setting
  long : String
  letter : Option Char

/-- The options that describe the operation. -/
def requestSwitches : List Switch :=
  [⟨.reference, "reference", 'r'⟩, ⟨.kind, "kind", 'k'⟩,
    ⟨.sourceAccount, "source-account", none⟩, ⟨.targetAccount, "target-account", none⟩,
    ⟨.amount, "amount", 'a'⟩]

def Scenario.Kind.switches : Scenario.Kind → List Switch
  | .duplicate => requestSwitches ++ [⟨.repetitions, "parallel", 'n'⟩]
  | .retry => requestSwitches ++ [⟨.repetitions, "retries", 'n'⟩, ⟨.delay, "delay-ms", none⟩]
  | .outOfOrder => requestSwitches ++ [⟨.repetitions, "count", 'n'⟩]
  | .delayed => requestSwitches ++ [⟨.delay, "delay-ms", none⟩]

structure Arguments where
  inMemory : Bool
  request : Request
  scenario : Scenario

namespace Arguments

open CommandLine (Word)

/-! ### The options of a scenario -/

/-- What has been read so far. -/
structure Form where
  inMemory : Bool
  request : Request
  repetitions : Option Nat
  delay : Option Nat
  /-- The options that were given. -/
  given : List Setting

def orInvalid {α : Type} : Option α → Except ArgumentError α
  | some a => .ok a
  | none => .error .invalidValue

/-- A number of 64 bits. -/
def readNumber (value : String) : Except ArgumentError Nat :=
  orInvalid ((Text.natural? value.toList).filter (· < twos 64))

/-- Fills in an option, which can be given once. -/
def Form.set (f : Form) (setting : Setting) (value : String) : Except ArgumentError Form := do
  let f ← if f.given.contains setting then .error .repeated
    else pure { f with given := setting :: f.given }
  match setting with
  | .reference => return { f with request := { f.request with reference := value } }
  | .kind =>
    match Named.find? value with
    | some kind => return { f with request := { f.request with kind := kind } }
    | none => .error .unknownValue
  | .sourceAccount =>
    return { f with request := { f.request with
      sourceAccount := some (← orInvalid (Id.ofText? value)) } }
  | .targetAccount =>
    return { f with request := { f.request with
      targetAccount := some (← orInvalid (Id.ofText? value)) } }
  | .amount =>
    return { f with request := { f.request with
      amount := ← orInvalid (Decimal.ofText? value) } }
  | .repetitions => return { f with repetitions := some (← readNumber value) }
  | .delay => return { f with delay := some (← readNumber value) }
  | .inMemory => return { f with inMemory := true }

/-- An option whose value is to come, or has come and is not filled in yet. -/
abbrev Waiting := Option (Setting × Option String)

/-- Fills in the option that is waiting. -/
def settle (f : Form) : Waiting → Except ArgumentError Form
  | none => .ok f
  | some (_, none) => .error .missingValue
  | some (setting, some value) => f.set setting value

/-- Reads an option by its long name. -/
def readLong (kind : Scenario.Kind) (name : String) (value : Option String) (f : Form)
    (w : Waiting) : Except ArgumentError (Form × Waiting) :=
  if name = "help" ∨ name = "in-memory" then
    if value.isSome then .error .needlessValue
    else do
      let f ← settle f w
      if name = "help" then .error .help else return (← f.set .inMemory "", none)
  else
    match kind.switches.find? (·.long = name) with
    | none => .error .unknownArgument
    | some switch => do
      let f ← settle f w
      match value with
      | some value => return (← f.set switch.setting value, none)
      | none => return (f, some (switch.setting, none))

/-- Reads letters; behind one that takes a value the rest is its value. -/
def readLetters (kind : Scenario.Kind) (f : Form) (w : Waiting) :
    List Char → Except ArgumentError (Form × Waiting)
  | [] => .ok (f, w)
  | c :: rest =>
    if c = 'h' then do
      let _ ← settle f w
      .error .help
    else
      match kind.switches.find? (·.letter = some c) with
      | none => .error .unknownArgument
      | some switch => do
        let f ← settle f w
        match rest with
        | [] => return (f, some (switch.setting, none))
        | '=' :: value => return (← f.set switch.setting (String.ofList value), none)
        | value => return (← f.set switch.setting (String.ofList value), none)

/-- Reads the words behind the name of a scenario. -/
def readOptions (kind : Scenario.Kind) : List String → Form → Waiting → Except ArgumentError Form
  | [], f, w => settle f w
  | word :: rest, f, w =>
    match Word.ofText word with
    | .separator => if rest.isEmpty then settle f w else .error .unknownArgument
    | .long name value => do
      let (f, w) ← readLong kind name value f w
      readOptions kind rest f w
    | .letters cs => do
      let (f, w) ← readLetters kind f w cs
      readOptions kind rest f w
    | .plain =>
      match w with
      | some (setting, none) => readOptions kind rest f (some (setting, some word))
      | _ => .error .unknownArgument

def Form.empty : Form :=
  ⟨false, .default, none, none, []⟩

/-- The scenario with its numbers, which have defaults. -/
def Form.scenario (f : Form) : Scenario.Kind → Scenario
  | .duplicate => .duplicate (f.repetitions.getD 10)
  | .retry => .retry (f.repetitions.getD 3) (f.delay.getD 500)
  | .outOfOrder => .outOfOrder (f.repetitions.getD 5)
  | .delayed => .delayed (f.delay.getD 1000)

/-! ### The whole line -/

/-- Whether the word names a scenario, or help. -/
def isCommand (word : String) : Bool :=
  word == "help" || (Named.find? word : Option Scenario.Kind).isSome

/-- The words behind `help` name one command at most. -/
def readHelp : List String → ArgumentError
  | [] => .help
  | [word] => if isCommand word then .help else .unknownScenario
  | _ => .unknownScenario

/-- Reads an option in front of the scenario; the answer is that of the option. -/
def readFlag (name : String) (value : Option String) : Except ArgumentError Unit :=
  if name = "help" ∨ name = "version" ∨ name = "in-memory" then
    if value.isSome then .error .needlessValue
    else if name = "help" then .error .help
    else if name = "version" then .error .version
    else .ok ()
  else .error .unknownArgument

/-- Reads words up to the name of a scenario, and the rest with it. -/
def readWords (inMemory : Bool) : List String → Except ArgumentError Arguments
  | [] => .error (if inMemory then .noScenario else .nothingGiven)
  | word :: rest =>
    match Word.ofText word with
    | .separator =>
      match rest with
      | [] => .error (if inMemory then .noScenario else .nothingGiven)
      | next :: _ => .error (if isCommand next then .unknownArgument else .unknownScenario)
    | .long name value => do
      readFlag name value
      if inMemory then .error .repeated else readWords true rest
    | .letters cs =>
      match cs with
      | 'h' :: _ => .error .help
      | 'V' :: _ => .error .version
      | _ => .error .unknownArgument
    | .plain =>
      if word = "help" then .error (readHelp rest)
      else
        match (Named.find? word : Option Scenario.Kind) with
        | none => .error .unknownScenario
        | some kind => do
          let f ← readOptions kind rest .empty none
          return ⟨inMemory || f.inMemory, f.request, f.scenario kind⟩

def parse (words : List String) : Except ArgumentError Arguments :=
  readWords false words

/-! ### JSON -/

def toJson (a : Arguments) : Json :=
  let r := a.request
  let numbers := match a.scenario with
    | .duplicate parallel => [("parallel", Json.nat parallel)]
    | .retry retries delay => [("retries", Json.nat retries), ("delay_ms", Json.nat delay)]
    | .outOfOrder count => [("count", Json.nat count)]
    | .delayed delay => [("delay_ms", Json.nat delay)]
  .object ([
    ("scenario", Named.toJson a.scenario.kind),
    ("in_memory", .bool a.inMemory),
    ("operation", .object [
      ("reference", Json.option Json.string r.reference),
      ("kind", Named.toJson r.kind),
      ("source_account", Json.option Id.toJson r.sourceAccount),
      ("target_account", Json.option Id.toJson r.targetAccount),
      ("amount", r.amount.toJson)])] ++ numbers)

end Arguments
end Daybook.Simulation
