import Daybook.Config
import Daybook.Config.Assignments
import Daybook.Database.Bare
import Daybook.Log.Filter
import Daybook.Text.Divide

/-!
What the programs have in common: how they are called, how they end, and the databases that they can
reach.
-/

namespace Daybook.Program

/-- How a program is called. -/
structure Invocation where
  arguments : List String
  inherited : Config.Environment
  files : Config.Files

/-- How a program ends. -/
inductive Exit where
  | success
  /-- The command line is wrong. -/
  | misuse
  /-- With an error, whose text is shown. -/
  | failure (message : String)
  /-- Where no error was foreseen. -/
  | crash
deriving DecidableEq

def Exit.code : Exit → Nat
  | .success => 0
  | .failure _ => 1
  | .misuse => 2
  | .crash => 101

def Exit.message? : Exit → Option String
  | .failure message => some message
  | _ => none

/-- The environment, with the variables of the file `.env` that it does not have. -/
def Invocation.environment (i : Invocation) : Except Exit Config.Environment :=
  match i.inherited.extend? ((i.files.lookup ".env").getD "") with
  | some env => .ok env
  | none => .error .crash

/-- The configuration does not load. -/
def unconfigured : Exit :=
  .failure "failed to load configuration"

/-- The database cannot be reached. -/
def unconnected : Exit :=
  .failure "failed to connect to database"

/-- The database that can be reached, and its address. -/
structure Reachable where
  url : String
  database : Database

/-- A database that was connected to. -/
inductive Connection where
  | ledger (database : Database)
  /-- It was made for the connection and has no tables. -/
  | bare

/-- What is left of an address behind `sqlite:`, and its option. -/
def fileAddress? (url : String) : Option (List Char × List Char) := do
  let rest ← "sqlite:".toList.isPrefixOf? url.toList
  let (address, options) := Text.divide (· == '?') rest
  return (address, options.getD [])

/-- The address of a database that is made when it is connected to, in memory or in a file of the
working folder. -/
def isMade (url : String) : Bool :=
  match fileAddress? url with
  | none => false
  | some (address, options) =>
    let name := ("//".toList.isPrefixOf? address).getD address
    let isFile := !name.isEmpty && name.all fun c => Config.isKeyChar c || c == '.'
    (address == ":memory:".toList && options.isEmpty) ||
      isFile && (options == "mode=rwc".toList || options == "mode=memory".toList)

/-- Connects to the database with that address. -/
def connect (reachable : Option Reachable) (url : String) : Except Exit Connection :=
  match reachable.filter (·.url = url) with
  | some r => .ok (.ledger r.database)
  | none => if isMade url then .ok .bare else .error unconnected

end Daybook.Program
