import Daybook.Settings
import Daybook.Store.Fault

/-!
A session: somebody who works on one store over a number of steps, with drafts kept open under names
and faults put in the way.
-/

namespace Daybook

structure Session (σ Draft : Type) where
  backend : Backend σ Draft
  store : Faulty σ
  /-- The open drafts; of two with one name the first counts. -/
  drafts : List (String × Draft)
  settings : Settings

namespace Session

variable {σ Draft α : Type}

def start (backend : Backend σ Draft) (store : σ) (settings : Settings) : Session σ Draft :=
  ⟨backend, ⟨[], store⟩, [], settings⟩

/-- Runs a script to its end. -/
def run (s : Session σ Draft) (script : Script Draft α) : Outcome (Session σ Draft) α :=
  let o := script.run s.backend.withFaults s.store
  ⟨o.result, o.events, { s with store := o.state }⟩

/-- Makes one call. -/
def ask (s : Session σ Draft) (c : Call Draft) : Outcome (Session σ Draft) c.Reply :=
  s.run (Script.ask c)

def keepDraft (s : Session σ Draft) (name : String) (d : Draft) : Session σ Draft :=
  { s with drafts := (name, d) :: s.drafts.filter (·.1 != name) }

/-- Lets go of a draft, with all that was not committed. -/
def dropDraft (s : Session σ Draft) (name : String) : Session σ Draft :=
  { s with drafts := s.drafts.filter (·.1 != name) }

/-- Makes a call that answers with a draft, and keeps the draft under the name. -/
def askDraft (s : Session σ Draft) (name : String) (script : Script Draft (Except StoreError Draft)) :
    Outcome (Session σ Draft) (Except StoreError Unit) :=
  let o := s.run script
  match o.result with
  | .ok d => ⟨.ok (), o.events, o.state.keepDraft name d⟩
  | .error e => ⟨.error e, o.events, o.state⟩

/-- Opens a draft under a name. -/
def openDraft (s : Session σ Draft) (name : String) :
    Outcome (Session σ Draft) (Except StoreError Unit) :=
  s.askDraft name (Script.ask .begin)

/-- Writes to the draft of that name; `none` if there is none. -/
def write? (s : Session σ Draft) (name : String)
    (script : Draft → Script Draft (Except StoreError Draft)) :
    Option (Outcome (Session σ Draft) (Except StoreError Unit)) :=
  (s.drafts.lookup name).map fun d => s.askDraft name (script d)

def arm (s : Session σ Draft) (f : Fault) : Session σ Draft :=
  { s with store := { s.store with faults := f.arm s.store.faults } }

/-- Changes the store behind the faults. -/
def mapStore (s : Session σ Draft) (f : σ → σ) : Session σ Draft :=
  { s with store := { s.store with store := f s.store.store } }

end Session
end Daybook
