import Daybook.Program
import Daybook.Simulation
import Daybook.Simulation.Arguments
import Daybook.Store.Memory

/-!
The simulator. The environment is read first, then the command line, then the configuration. A
simulation in memory needs no configuration: one that does not load counts as the default one. Log
lines pass the filter of the environment, or else that of the configuration.
-/

namespace Daybook.Program.Simulator

open Simulation

/-- What a run of the simulator is to do. -/
structure Plan where
  arguments : Arguments
  settings : Settings
  format : Log.Format
  filter : Log.Filter
  /-- The database to work on; without one the store is kept in memory. -/
  url : Option String

/-- What the simulator says of its command line. -/
def usage : String :=
  "Usage: simulator [--in-memory] SCENARIO [OPTIONS]\n\nScenarios: " ++
    ", ".intercalate ((Named.all : List Scenario.Kind).map Named.name)

def exitOf : ArgumentError → Exit
  | .help => .success
  | .version => .success
  | _ => .misuse

/-- The filter of the environment, unless it is missing or malformed. -/
def logFilter (env : Config.Environment) (default : String) : Except Exit Log.Filter :=
  match (env.lookup "RUST_LOG").map Log.Filter.ofText with
  | some (.ok f) => .ok f
  | some (.error .misplaced) => .error .crash
  | _ => (Log.Filter.ofTextLeniently default).mapError fun _ => .crash

def plan (i : Invocation) : Except Exit Plan := do
  let env ← i.environment
  let arguments ← (Arguments.parse i.arguments).mapError exitOf
  let loaded := Config.load env i.files
  let (ledger, telemetry) ← match loaded with
    | .ok c => pure (c.ledger, c.telemetry)
    | .error _ =>
      if arguments.inMemory then pure (.default, .default) else .error unconfigured
  let url := if arguments.inMemory then none else loaded.toOption.map (·.database.url)
  let filter ← logFilter env telemetry.filter
  return ⟨arguments, ledger.settings, telemetry.format, filter, url⟩

/-- What a run of the simulator comes to. -/
structure Result where
  exit : Exit
  report : Option Report
  log : List Log.Line
  format : Log.Format

/-- A run that ended before anything was logged. -/
def Result.early (exit : Exit) : Result :=
  ⟨exit, none, [], .pretty⟩

/-- Runs the scenario of the plan on a store. -/
def simulate {σ Draft : Type} (backend : Backend σ Draft) (store : σ) (p : Plan)
    (supply : Supply) : Result × σ :=
  let script := Script.emit (.storeChosen p.url.isNone)
    (Simulation.run p.settings supply p.arguments.request p.arguments.scenario)
  let o := script.run backend store
  let log := (o.events.map Event.line).filter p.filter.shows
  match o.result with
  | .ok report => (⟨.success, some report, log, p.format⟩, o.state)
  | .error (.refused cause) => (⟨.failure cause.message, none, log, p.format⟩, o.state)
  | .error .overflow => (⟨.crash, none, log, p.format⟩, o.state)

/-- A run of the simulator, and the database after it. -/
def run (i : Invocation) (reachable : Option Reachable) (supply : Supply) :
    Result × Option Reachable :=
  match plan i with
  | .error exit => (.early exit, reachable)
  | .ok p =>
    match p.url with
    | none => ((simulate Memory.backend .empty p supply).1, reachable)
    | some url =>
      match connect reachable url with
      | .error exit => (.early exit, reachable)
      | .ok (.ledger db) =>
        let (result, db) := simulate Database.backend db p supply
        (result, some ⟨url, db⟩)
      | .ok .bare => ((simulate Database.Bare.backend () p supply).1, reachable)

end Daybook.Program.Simulator
