import Daybook.Json.Text
import Daybook.Log.Text
import Daybook.Power
import Daybook.Program.Simulator
import Daybook.Simulation.Shuffle
import Std.Time.DateTime.Timestamp

/-!
The simulator as a command. It keeps its store in memory, as no database can be reached from here;
the report goes to the standard output and all else to the standard error.
-/

namespace Daybook.Main

open Program (Invocation)

/-- The text of a file, if it can be read. -/
def readText? (path : String) : IO (Option String) := do
  try
    return some (← IO.FS.readFile path)
  catch _ =>
    return none

def readTexts (paths : List String) : IO Config.Files := do
  let texts ← paths.mapM fun path => do return (path, ← readText? path)
  return texts.filterMap fun (path, text?) => text?.map (path, ·)

/-- The environment as a list of `NAME=value` texts with NUL characters between them. -/
def environmentOf (text : String) : Config.Environment :=
  (text.splitOn "\x00").filterMap fun item =>
    match item.splitOn "=" with
    | name :: value :: more => some (name, "=".intercalate (value :: more))
    | _ => none

/-- How the program was called; which files there are to read depends on the environment. -/
def readInvocation (arguments : List String) : IO Invocation := do
  let inherited := environmentOf ((← readText? "/proc/self/environ").getD "")
  let called : Invocation := ⟨arguments, inherited, ← readTexts [".env"]⟩
  let names := Config.fileNames (called.environment.toOption.getD inherited)
  let files ← readTexts (names.flatMap Config.Files.candidates)
  return { called with files := called.files ++ files }

def now : IO Time := do
  return .ofNanos (← Std.Time.Timestamp.now).toNanosecondsSinceUnixEpoch.toInt

/-- Fresh identifiers and readings of the clock, from that moment on and with that seed. -/
def supply (start : Time) (seed : Nat) : Simulation.Supply :=
  let millis := (start.second * 1000 + start.nano / 1000000).toNat
  let stamp := fun n : Nat => Stamp.mk (.timed millis (seed * twos 32 + n)) start
  ⟨.timed millis (seed * twos 32), fun n => stamp (n + 1), fun n =>
    ⟨stamp (3 * n + 3), stamp (3 * n + 4), stamp (3 * n + 5), start⟩, Simulation.shuffled seed⟩

/-- A batch is sent in another order, and nothing of it is lost. -/
theorem shuffle_supply_perm (start : Time) (seed : Nat) (cs : List Command) :
    ((supply start seed).shuffle cs).Perm cs :=
  Simulation.shuffled_perm seed cs

/-- Waits as long as the scenario does. -/
def wait (i : Invocation) : IO Unit :=
  match Program.Simulator.plan i with
  | .ok plan => IO.sleep (UInt32.ofNat (min plan.arguments.scenario.waiting (twos 32 - 1)))
  | .error _ => pure ()

/-- Runs the simulator; the answer is the exit code. -/
def run (arguments : List String) : IO UInt32 := do
  let i ← readInvocation arguments
  let before ← IO.monoMsNow
  wait i
  let start ← now
  let (result, _) := Program.Simulator.run i none (supply start (← IO.rand 1 (twos 30)))
  for line in result.log do
    IO.eprintln (line.text start result.format)
  match result.report with
  | some report => IO.println ((report.toJson ((← IO.monoMsNow) - before)).text (.lines 0))
  | none => pure ()
  match result.exit with
  | .misuse => IO.eprintln Program.Simulator.usage
  | .success => if result.report.isNone then IO.println Program.Simulator.usage
  | .failure message => IO.eprintln ("Error: " ++ message)
  | .crash => IO.eprintln "Error: the program cannot go on"
  return UInt32.ofNat result.exit.code

end Daybook.Main

def main (arguments : List String) : IO UInt32 :=
  Daybook.Main.run arguments
