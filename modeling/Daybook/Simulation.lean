import Daybook.Booking
import Daybook.Decimal.Arithmetic
import Daybook.Simulation.Report
import Daybook.Simulation.Scenario
import Daybook.Time.Duration

/-!
Simulations of unruly traffic: the same operation submitted many times, retried, come late, or a
batch of operations come in any order. Each scenario is a script that opens the accounts it was not
given, submits through the ordinary booking of commands, and reports how many operations came of it.
-/

namespace Daybook.Simulation

variable {Draft : Type}

/-- Why a simulation has no report. -/
inductive Failure where
  | refused (cause : Error)
  /-- An amount of the batch is too great to be formed. -/
  | overflow

/-- What a simulation takes from outside. -/
structure Supply where
  /-- For a reference of its own. -/
  reference : Uuid
  /-- For the accounts that it opens. -/
  account : Nat → Stamp
  /-- For its submissions. -/
  booking : Nat → BookingStamps
  shuffle : List Command → List Command

/-- A script that can fail. -/
abbrev Part (Draft α : Type) := Script Draft (Except Failure α)

/-- Goes on with the result of a part. -/
def proceed {α β : Type} (part : Part Draft α) (next : α → Part Draft β) : Part Draft β :=
  part.bind fun r =>
    match r with
    | .ok a => next a
    | .error e => .done (.error e)

/-! ### Preparation -/

/-- The source that the submissions name. -/
def source : String := "simulation"

/-- A reference of its own. -/
def ownReference (id : Uuid) : String :=
  "SIM-" ++ String.ofList (id.toChars.filter (· != '-'))

def openAccount (stamp : Stamp) : Part Draft AccountId :=
  .call (.insertAccount ⟨⟨stamp.id⟩, .user, stamp.time⟩) fun reply =>
    match reply with
    | .ok () => .emit (.accountOpened ⟨stamp.id⟩) (.done (.ok ⟨stamp.id⟩))
    | .error e => .done (.error (.refused (.store e)))

def accountOrOpen (given : Option AccountId) (stamp : Stamp) : Part Draft AccountId :=
  match given with
  | some id => .done (.ok id)
  | none => openAccount stamp

/-- The command to submit; an account that is missing is opened, the source before the target. -/
def prepare (supply : Supply) (r : Request) : Part Draft Command :=
  let reference := r.reference.getD (ownReference supply.reference)
  let ready := fun c : Command => Script.done (.ok (c.withSource source))
  match r.kind with
  | .deposit =>
    proceed (accountOrOpen r.targetAccount (supply.account 0)) fun target =>
      ready (.deposit reference target r.amount)
  | .withdrawal =>
    proceed (accountOrOpen r.sourceAccount (supply.account 0)) fun source =>
      ready (.withdrawal reference source r.amount)
  | .transfer =>
    proceed (accountOrOpen r.sourceAccount (supply.account 0)) fun source =>
      proceed (accountOrOpen r.targetAccount (supply.account 1)) fun target =>
        ready (.transfer reference source target r.amount)

/-! ### Submission -/

/-- The submission of that number. -/
def submit (settings : Settings) (supply : Supply) (n : Nat) (c : Command) :
    Part Draft Operation :=
  (Booking.process settings (supply.booking n) c).bind fun r => .done (r.mapError .refused)

/-- Runs all parts; the first failure counts, but stops nothing. -/
def runAll {α : Type} : List (Part Draft α) → Part Draft (List α)
  | [] => .done (.ok [])
  | part :: rest =>
    part.bind fun first =>
      (runAll rest).bind fun others =>
        .done do return (← first) :: (← others)

/-- Runs the parts up to the first failure. -/
def runInTurn {α : Type} : List (Part Draft α) → Part Draft (List α)
  | [] => .done (.ok [])
  | part :: rest =>
    proceed part fun a => proceed (runInTurn rest) fun as => .done (.ok (a :: as))

/-! ### Scenarios -/

def duplicate (settings : Settings) (supply : Supply) (r : Request) (parallel : Nat) :
    Part Draft Report :=
  proceed (prepare supply r) fun c =>
    .emit (.duplicateStarted parallel c.reference)
      (proceed (runAll ((List.range parallel).map fun n =>
          .emit (.submitting n c.reference) (submit settings supply n c))) fun operations =>
        let unique := distinct operations
        .emit (.duplicateCompleted parallel unique) (.done (.ok ⟨parallel, unique,
          "Idempotency working! " ++ toString parallel ++ " parallel requests resulted in " ++
            toString unique ++ " operation(s)",
          operations.take 1⟩)))

def retry (settings : Settings) (supply : Supply) (r : Request) (retries delay : Nat) :
    Part Draft Report :=
  proceed (prepare supply r) fun c =>
    .emit (.retryStarted retries (Time.durationText delay) c.reference)
      (proceed (runInTurn (submit settings supply 0 c :: (List.range retries).map fun n =>
          .emit (.retryAttempt (n + 1)) (submit settings supply (n + 1) c))) fun operations =>
        let total := retries + 1
        let unique := distinct operations
        .emit (.retryCompleted total unique) (.done (.ok ⟨total, unique,
          "Retry tolerance working! " ++ toString total ++ " webhook retries resulted in " ++
            toString unique ++ " operation(s)",
          operations.take 1⟩)))

/-- A number in at least three digits. -/
def numbered (n : Nat) : String :=
  String.ofList (Text.padded 10 3 n)

/-- The command of that number of a batch: a reference of its own, and that many times the amount. -/
def variant (base : Command) (n : Nat) : Option Command := do
  let times ← Decimal.ofNat? n
  let amount ← base.amount.mul? times
  return { base with reference := base.reference ++ "-" ++ numbered n, amount := amount }

/-- The commands of a batch, numbered from one. -/
def batch (base : Command) (count : Nat) : Option (List Command) :=
  (List.range count).mapM fun n => variant base (n + 1)

def submitBatch (settings : Settings) (supply : Supply) (commands : List Command) :
    Part Draft (List Operation) :=
  runInTurn (commands.mapIdx fun n c =>
    .emit (.shuffleProcessing c.reference) (submit settings supply n c))

def outOfOrder (settings : Settings) (supply : Supply) (r : Request) (count : Nat) :
    Part Draft Report :=
  proceed (prepare supply r) fun base =>
    .emit (.shuffleStarted count)
      (match batch base count with
      | none => .done (.error .overflow)
      | some commands =>
        proceed (submitBatch settings supply (supply.shuffle commands)) fun operations =>
          let unique := distinct operations
          .emit (.shuffleCompleted unique) (.done (.ok ⟨count, unique,
            "Out-of-order tolerance working! " ++
              "Operations processed in random order with consistent results",
            operations⟩)))

def delayed (settings : Settings) (supply : Supply) (r : Request) (delay : Nat) :
    Part Draft Report :=
  proceed (prepare supply r) fun c =>
    .emit (.delayStarted (Time.durationText delay) c.reference)
      (proceed (submit settings supply 0 c) fun operation =>
        .emit .delayCompleted (.done (.ok ⟨1, 1,
          "Delay tolerance working! Operation processed successfully after " ++ toString delay ++
            "ms delay",
          [operation]⟩)))

def run (settings : Settings) (supply : Supply) (r : Request) : Scenario → Part Draft Report
  | .duplicate parallel => duplicate settings supply r parallel
  | .retry retries delay => retry settings supply r retries delay
  | .outOfOrder count => outOfOrder settings supply r count
  | .delayed delay => delayed settings supply r delay

end Daybook.Simulation
