import Daybook.CommandLine
import Daybook.Power
import Daybook.Program

/-!
The command line of the migrator: options for all commands, which can stand on either side of the
command, the command, and its own options. Words are read from left to right, and a value is looked
at when the next option comes or the line ends, so that help is given only where nothing before it
is wrong.
-/

namespace Daybook.Program.Migrator

open CommandLine (Word)

inductive Command where
  | status
  /-- Rolls back that many migrations. -/
  | down (steps : Nat)
deriving DecidableEq

/-- What a command line asks for. -/
structure Request where
  command : Command
  /-- The address of the database, if it is not that of the environment. -/
  url : Option String

/-! ### Options -/

inductive Setting where
  | help | version | verbose | schema | url | steps
deriving DecidableEq

structure Switch where
  setting : Setting
  long : String
  letter : Char
  takesValue : Bool

/-- The options that can stand on either side of the command. -/
def commonSwitches : List Switch :=
  [⟨.help, "help", 'h', false⟩, ⟨.verbose, "verbose", 'v', false⟩,
    ⟨.schema, "database-schema", 's', true⟩, ⟨.url, "database-url", 'u', true⟩]

/-- The options in front of the command. -/
def frontSwitches : List Switch :=
  ⟨.version, "version", 'V', false⟩ :: commonSwitches

/-- The options behind a command that works on a number of migrations. -/
def numberedSwitches : List Switch :=
  ⟨.steps, "num", 'n', true⟩ :: commonSwitches

/-- The commands with their options. -/
def commands : List (String × List Switch) :=
  [("init", commonSwitches), ("generate", commonSwitches), ("fresh", commonSwitches),
    ("refresh", commonSwitches), ("reset", commonSwitches), ("status", commonSwitches),
    ("up", numberedSwitches), ("down", numberedSwitches)]

/-- What has been read so far. -/
structure Form where
  url : Option String
  steps : Nat
  /-- The options that were given on this side of the command. -/
  given : List Setting

/-- Without an option one migration is meant. -/
def Form.empty : Form :=
  ⟨none, 1, []⟩

/-- A number of 32 bits; zero may have a minus sign. -/
def steps? (cs : List Char) : Option Nat :=
  match cs with
  | '-' :: ds => (Text.digits? ds).filter (· = 0)
  | cs => (Text.natural? cs).filter (· < twos 32)

/-- Fills in an option, which can be given once. -/
def Form.set (f : Form) (setting : Setting) (value : String) : Except Exit Form := do
  let f ← if f.given.contains setting then .error .misuse
    else pure { f with given := setting :: f.given }
  match setting with
  | .help => .error .success
  | .version => .error .success
  | .url => return { f with url := some value }
  | .steps =>
    match steps? value.toList with
    | some steps => return { f with steps := steps }
    | none => .error .misuse
  | _ => return f

/-- An option whose value is to come, or has come and is not filled in yet. -/
abbrev Waiting := Option (Setting × Option String)

/-- Fills in the option that is waiting. -/
def settle (f : Form) : Waiting → Except Exit Form
  | none => .ok f
  | some (_, none) => .error .misuse
  | some (setting, some value) => f.set setting value

/-! ### Words -/

/-- Reads an option by its long name. -/
def readLong (switches : List Switch) (name : String) (value : Option String) (f : Form)
    (w : Waiting) : Except Exit (Form × Waiting) :=
  match switches.find? (·.long = name) with
  | none => .error .misuse
  | some switch =>
    if switch.takesValue then do
      let f ← settle f w
      match value with
      | some value => return (← f.set switch.setting value, none)
      | none => return (f, some (switch.setting, none))
    else if value.isSome then .error .misuse
    else do return (← (← settle f w).set switch.setting "", none)

/-- Reads letters; behind one that takes a value the rest is its value. -/
def readLetters (switches : List Switch) (f : Form) (w : Waiting) :
    List Char → Except Exit (Form × Waiting)
  | [] => .ok (f, w)
  | c :: rest =>
    match switches.find? (·.letter = c) with
    | none => .error .misuse
    | some switch => do
      let f ← settle f w
      if switch.takesValue then
        match rest with
        | [] => return (f, some (switch.setting, none))
        | '=' :: value => return (← f.set switch.setting (String.ofList value), none)
        | value => return (← f.set switch.setting (String.ofList value), none)
      else readLetters switches (← f.set switch.setting "") none rest

/-- Reads options up to a word that is none, and gives the words from there on. -/
def readOptions (switches : List Switch) :
    List String → Form → Waiting → Except Exit (Form × List String)
  | [], f, w => do return (← settle f w, [])
  | word :: rest, f, w =>
    match Word.ofText word with
    | .separator => do
      if rest.isEmpty then return (← settle f w, []) else .error .misuse
    | .long name value => do
      let (f, w) ← readLong switches name value f w
      readOptions switches rest f w
    | .letters cs => do
      let (f, w) ← readLetters switches f w cs
      readOptions switches rest f w
    | .plain =>
      match w with
      | some (setting, none) => readOptions switches rest f (some (setting, some word))
      | _ => do return (← settle f w, word :: rest)

/-- Whether the word names a command, or help. -/
def isCommand (word : String) : Bool :=
  word == "help" || (commands.lookup word).isSome

/-- The words behind `help` name one command at most. -/
def helpExit : List String → Exit
  | [] => .success
  | [word] => if isCommand word then .success else .misuse
  | _ => .misuse

/-- What the words ask for, or how the program ends. -/
def parse (words : List String) : Except Exit Request := do
  let (front, rest) ← readOptions frontSwitches words .empty none
  match rest with
  | [] => .error .misuse
  | name :: rest =>
    if name = "help" then .error (helpExit rest)
    else
      match commands.lookup name with
      | none => .error .misuse
      | some switches =>
        let (f, rest) ← readOptions switches rest { front with given := [] } none
        if !rest.isEmpty then .error .misuse
        else if name = "status" then return ⟨.status, f.url⟩
        else if name = "down" then return ⟨.down f.steps, f.url⟩
        else .error .misuse

end Daybook.Program.Migrator
