import Daybook.Log.Event
import Daybook.Store.Call

/-!
Scripts: programs over the calls of a store. A script stops at each call until it has the reply, so
that several scripts can take turns on one store and every call can be made to fail. A backend
answers calls from a state; `Script.run` lets a script run alone.
-/

namespace Daybook

inductive Script (Draft α : Type) where
  | done (result : α)
  | emit (event : Event) (next : Script Draft α)
  | call (c : Call Draft) (next : c.Reply → Script Draft α)

/-- A store: what it answers to a call, what it reports, and its next state. -/
structure Backend (σ Draft : Type) where
  act : (c : Call Draft) → σ → c.Reply × List Event × σ

/-- How a script ended. -/
structure Outcome (σ α : Type) where
  result : α
  events : List Event
  state : σ

namespace Script

variable {σ Draft α β : Type}

def bind (s : Script Draft α) (f : α → Script Draft β) : Script Draft β :=
  match s with
  | .done a => f a
  | .emit e next => .emit e (next.bind f)
  | .call c next => .call c fun r => (next r).bind f

instance : Monad (Script Draft) where
  pure := .done
  bind := bind

/-- The script of a single call. -/
def ask (c : Call Draft) : Script Draft c.Reply :=
  .call c .done

/-- The script that reports an event. -/
def report (e : Event) : Script Draft Unit :=
  .emit e (.done ())

/-- Runs the script without interruption. -/
def run (b : Backend σ Draft) : Script Draft α → σ → Outcome σ α
  | .done a, s => ⟨a, [], s⟩
  | .emit e next, s =>
    let o := run b next s
    { o with events := e :: o.events }
  | .call c next, s =>
    let (reply, events, s) := b.act c s
    let o := run b (next reply) s
    { o with events := events ++ o.events }

/-- Goes on with an answer, and stops with an error of the store. -/
def andThen (reply : Except StoreError α) (f : α → Script Draft (Except Error β)) :
    Script Draft (Except Error β) :=
  match reply with
  | .ok a => f a
  | .error e => .done (.error (.store e))

theorem run_bind (b : Backend σ Draft) (s : Script Draft α) (f : α → Script Draft β) (st : σ) :
    (s.bind f).run b st =
      let first := s.run b st
      let second := (f first.result).run b first.state
      { second with events := first.events ++ second.events } := by
  induction s generalizing st with
  | done a => simp [bind, run]
  | emit e next ih => simp [bind, run, ih]
  | call c next ih => simp [bind, run, ih, List.append_assoc]

end Script
end Daybook
