import Daybook.Config.Environment
import Daybook.Config.Files
import Daybook.Config.Toml
import Daybook.Log.Format
import Daybook.Power
import Daybook.Settings

/-!
Configuration of the programs. It is put together from the file `config/default.toml`, a file for
the mode in which the programs run, and environment variables, later ones winning key by key, and
then read with a default for every key but the address of the database.
-/

namespace Daybook

/-- Why a configuration cannot be loaded. -/
inductive ConfigError where
  | missing (key : String)
  | brokenFile (file : String)
  /-- Another kind of value is needed, or a number in another range. -/
  | wrongKind (key : String)
  /-- The right kind of value, but not one that can stand there. -/
  | unusable (key : String)
deriving DecidableEq

namespace Config

structure Connection where
  url : String
  maxConnections : Nat
  minConnections : Nat

structure Books where
  currency : Currency
  defaultSource : String
  settlementAccount : Option AccountId
  /-- How many entries the analysis of a divergence shows. -/
  divergenceEntryLimit : Nat
  /-- How many reconciliations the dashboard shows. -/
  dashboardRecentLimit : Nat

structure Telemetry where
  format : Log.Format
  /-- What is logged unless the environment says otherwise. -/
  filter : String

end Config

structure Config where
  database : Config.Connection
  ledger : Config.Books
  telemetry : Config.Telemetry

namespace Config

/-! ### Reading keys

A key that is absent has its default, where there is one. -/

/-- A text; an integer is taken as its digits. -/
def text (key : String) : Value → Except ConfigError String
  | .text s => .ok s
  | .integer n => .ok (toString n)
  | .table _ => .error (.wrongKind key)

/-- The number that a text stands for; words for yes and no count as one and zero. -/
def numberOfText? (s : String) : Option Nat :=
  let word := String.ofList (s.toList.map Char.toLower)
  if ["true", "on", "yes"].contains word then some 1
  else if ["false", "off", "no"].contains word then some 0
  else Text.natural? s.toList

/-- A natural number of so many bits. -/
def number (bits : Nat) (key : String) (v : Value) : Except ConfigError Nat :=
  let n? := match v with
    | .text s => numberOfText? s
    | .integer n => if 0 ≤ n then some n.toNat else none
    | .table _ => none
  match n? with
  | some n => if n < twos bits then .ok n else .error (.wrongKind key)
  | none => .error (.wrongKind key)

/-- A value by its name; a table with a single key counts as that key. -/
def named {α : Type} [Named α] (key : String) (v : Value) : Except ConfigError α :=
  let name? := match v with
    | .text s => some s
    | .table [(s, _)] => some s
    | _ => none
  match name?.bind Named.find? with
  | some a => .ok a
  | none => .error (.unusable key)

def accountId (key : String) (v : Value) : Except ConfigError AccountId := do
  match Id.ofText? (← text key v) with
  | some id => return id
  | none => .error (.unusable key)

def orDefault {α : Type} (members : Members) (key : String) (default : α)
    (read : String → Value → Except ConfigError α) : Except ConfigError α :=
  match members.lookup key with
  | some v => read key v
  | none => .ok default

/-- The members of a section. -/
def readSection (key : String) : Value → Except ConfigError Members
  | .table members => .ok members
  | _ => .error (.unusable key)

/-! ### Reading sections -/

def Connection.read (key : String) (v : Value) : Except ConfigError Connection := do
  let members ← readSection key v
  let maxConnections ← orDefault members "max_connections" 10 (number 32)
  let minConnections ← orDefault members "min_connections" 1 (number 32)
  match members.lookup "url" with
  | some url => return ⟨← text "url" url, maxConnections, minConnections⟩
  | none => .error (.missing "url")

def Books.default : Books :=
  ⟨.brl, "api", none, 20, 10⟩

def Books.read (key : String) (v : Value) : Except ConfigError Books := do
  let members ← readSection key v
  return {
    currency := ← orDefault members "currency" default.currency named
    defaultSource := ← orDefault members "default_source" default.defaultSource text
    settlementAccount := ← orDefault members "settlement_account" none fun key v =>
      some <$> accountId key v
    divergenceEntryLimit := ← orDefault members "divergence_entry_limit"
      default.divergenceEntryLimit (number 64)
    dashboardRecentLimit := ← orDefault members "dashboard_recent_limit"
      default.dashboardRecentLimit (number 64) }

def Books.settings (b : Books) : Settings :=
  ⟨b.currency, b.defaultSource, b.settlementAccount⟩

def Telemetry.default : Telemetry :=
  ⟨.pretty, "ledger=debug"⟩

def Telemetry.read (key : String) (v : Value) : Except ConfigError Telemetry := do
  let members ← readSection key v
  return {
    format := ← orDefault members "log_format" default.format named
    filter := ← orDefault members "default_filter" default.filter text }

/-- Reads the sections; that the one on the database is missing is found out last. -/
def ofMembers (members : Members) : Except ConfigError Config := do
  let ledger ← orDefault members "ledger" Books.default Books.read
  let telemetry ← orDefault members "telemetry" Telemetry.default Telemetry.read
  match members.lookup "database" with
  | some v => return ⟨← Connection.read "database" v, ledger, telemetry⟩
  | none => .error (.missing "database")

/-! ### Loading -/

/-- What a file says, nothing if there is no such file. -/
def readFile (files : Files) (path : String) : Except ConfigError (List Value) :=
  match files.configuration? path with
  | none => .ok []
  | some file =>
    match Toml.parse? file with
    | some v => .ok v.members.placed
    | none => .error (.brokenFile path)

/-- The mode in which the programs run. -/
def mode (env : Environment) : String :=
  (env.lookup "RUN_MODE").getD "development"

/-- The names of the files, the later ones for special modes. -/
def fileNames (env : Environment) : List String :=
  ["config/default", "config/" ++ mode env]

def load (env : Environment) (files : Files) : Except ConfigError Config := do
  let said ← (fileNames env).mapM (readFile files)
  ofMembers (layered (said.flatten ++ env.settings))

/-! ### JSON -/

def toJson (c : Config) : Json :=
  .object [
    ("database", .object [
      ("url", .string c.database.url),
      ("max_connections", Json.nat c.database.maxConnections),
      ("min_connections", Json.nat c.database.minConnections)]),
    ("ledger", .object [
      ("currency", Named.toJson c.ledger.currency),
      ("default_source", .string c.ledger.defaultSource),
      ("settlement_account", Json.option Id.toJson c.ledger.settlementAccount),
      ("divergence_entry_limit", Json.nat c.ledger.divergenceEntryLimit),
      ("dashboard_recent_limit", Json.nat c.ledger.dashboardRecentLimit)]),
    ("telemetry", .object [
      ("log_format", Named.toJson c.telemetry.format),
      ("default_filter", .string c.telemetry.filter)])]

end Config
end Daybook
