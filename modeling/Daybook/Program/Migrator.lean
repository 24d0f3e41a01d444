import Daybook.Program.Migrator.Arguments

/-!
The migrator, as far as it only looks at a database to which no migration was applied: it lists all
migrations as pending, and it finds none to roll back.
-/

namespace Daybook.Program.Migrator

def lines : Command → List String
  | .status => "Checking migration status" ::
    Database.Migration.all.map fun m => "Migration '" ++ m.name ++ "'... Pending"
  | .down steps =>
    ["Rolling back " ++ toString steps ++ " applied migrations", "No applied migrations"]

/-- The command, once its database is connected to. The address of the database is an option or else
a variable of its own. -/
def connected (i : Invocation) (reachable : Option Reachable) : Except Exit Command := do
  let env ← i.environment
  let request ← parse i.arguments
  match request.url <|> env.lookup "DATABASE_URL" with
  | none => .error .crash
  | some url =>
    let _ ← (connect reachable url).mapError fun _ => .crash
    return request.command

/-- A run of the migrator: what it prints, and how it ends. -/
def run (i : Invocation) (reachable : Option Reachable) : List String × Exit :=
  match connected i reachable with
  | .error exit => ([], exit)
  | .ok command => (lines command, .success)

end Daybook.Program.Migrator
