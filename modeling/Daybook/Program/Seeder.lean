import Daybook.Program
import Daybook.Stamp

/-!
The seeder, which registers a fixed set of accounts. An id that is taken is left alone, whatever its
kind, so that the seeder can run any number of times.
-/

namespace Daybook.Program.Seeder

/-- An account to register. -/
structure Seed where
  label : String
  id : AccountId
  kind : Account.Kind

def settlement : Seed := ⟨"settlement", ⟨⟨1⟩⟩, .system⟩
def alice : Seed := ⟨"alice", ⟨⟨2⟩⟩, .user⟩
def bob : Seed := ⟨"bob", ⟨⟨3⟩⟩, .user⟩
def transit : Seed := ⟨"transit", ⟨⟨4⟩⟩, .transit⟩

def seeds : List Seed :=
  [settlement, alice, bob, transit]

namespace Seed

def title (s : Seed) : String :=
  s.label ++ " (" ++ s.id.toText ++ ")"

def skipped (s : Seed) : String :=
  "  " ++ s.title ++ " already exists, skipping..."

def created (s : Seed) : String :=
  "  Created " ++ s.kind.name ++ " account " ++ s.title

end Seed

/-- What the seeder prints, and how it ends. -/
structure Result where
  lines : List String
  exit : Exit

/-- The result with lines in front. -/
def Result.after (r : Result) (lines : List String) : Result :=
  { r with lines := lines ++ r.lines }

variable {Draft : Type}

/-- Registers the accounts that are not there, at the moment `now`. -/
def register (now : Time) : List Seed → Script Draft Result
  | [] => .done ⟨[], .success⟩
  | s :: rest =>
    .call (.findAccount s.id) fun found =>
      match found with
      | .error e => .done ⟨[], .failure (Error.store e).message⟩
      | .ok (some _) => (register now rest).bind fun r => .done (r.after [s.skipped])
      | .ok none =>
        .call (.insertAccount ⟨s.id, s.kind, now⟩) fun inserted =>
          match inserted with
          | .error _ => .done ⟨[], .failure ("failed to insert " ++ s.label ++ " account")⟩
          | .ok () => (register now rest).bind fun r => .done (r.after [s.created])

/-- What is printed when all accounts are there. -/
def closing : List String :=
  ["Seeding complete!",
    "  Set LEDGER__LEDGER__SETTLEMENT_ACCOUNT=" ++ settlement.id.toText ++
      " to book offsetting entries."]

/-- Registers the accounts in a database, and gives the ledger after it if there is one. -/
def registerIn (now : Time) : Connection → Result × Option Database
  | .ledger db =>
    let o := (register now seeds).run Database.backend db
    (o.result, some o.state)
  | .bare => (((register now seeds).run Database.Bare.backend ()).result, none)

def loadConfig (i : Invocation) : Except Exit Config := do
  (Config.load (← i.environment) i.files).mapError fun _ => unconfigured

/-- A run of the seeder, and the database after it. -/
def run (i : Invocation) (reachable : Option Reachable) (now : Time) :
    Result × Option Reachable :=
  match loadConfig i with
  | .error exit => (⟨[], exit⟩, reachable)
  | .ok c =>
    let connecting := "Connecting to database..."
    match connect reachable c.database.url with
    | .error exit => (⟨[connecting], exit⟩, reachable)
    | .ok connection =>
      let (result, db?) := registerIn now connection
      let closing := if result.exit = .success then closing else []
      (⟨[connecting, "Seeding accounts..."] ++ result.lines ++ closing, result.exit⟩,
        (db?.map (Reachable.mk c.database.url)) <|> reachable)

end Daybook.Program.Seeder
