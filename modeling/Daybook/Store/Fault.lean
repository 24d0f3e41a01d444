import Daybook.Store.Script

/-!
Stores that fail on purpose. A fault sits at a point, lets some calls pass, and then makes a number
of calls fail before they reach the store. One more fault makes the search by reference find nothing,
as if another booking had come in between.
-/

namespace Daybook

inductive FaultPoint where
  | findAccount | findReference | begin | insertOperation | insertEntries | updateOperation
  | commit | entries | recent | upTo | insertReconciliation | hideReference
deriving DecidableEq

namespace FaultPoint

def name : FaultPoint → String
  | .findAccount => "find_account"
  | .findReference => "find_reference"
  | .begin => "begin"
  | .insertOperation => "insert_operation"
  | .insertEntries => "insert_entries"
  | .updateOperation => "update_operation"
  | .commit => "commit"
  | .entries => "entries"
  | .recent => "recent"
  | .upTo => "up_to"
  | .insertReconciliation => "insert_reconciliation"
  | .hideReference => "hide_reference"

instance : Named FaultPoint where
  noun := "fault point"
  all := [.findAccount, .findReference, .begin, .insertOperation, .insertEntries,
    .updateOperation, .commit, .entries, .recent, .upTo, .insertReconciliation, .hideReference]
  name := name

/-- The point that a call passes, if faults can sit there. -/
def ofCall {Draft : Type} : Call Draft → Option FaultPoint
  | .findAccount _ => some .findAccount
  | .findByReference _ => some .findReference
  | .begin => some .begin
  | .insertOperation _ _ => some .insertOperation
  | .insertEntries _ _ => some .insertEntries
  | .updateOperation _ _ => some .updateOperation
  | .commit _ => some .commit
  | .entriesOf _ => some .entries
  | .recentEntries _ _ => some .recent
  | .entriesUpTo _ _ => some .upTo
  | .insertReconciliation _ => some .insertReconciliation
  | _ => none

end FaultPoint

/-- The next `after` calls at the point pass, then `times` calls fail. -/
structure Fault where
  point : FaultPoint
  after : Nat
  times : Nat

namespace Fault

/-- Puts a fault in the place of an earlier one at its point. -/
def arm (f : Fault) (fs : List Fault) : List Fault :=
  f :: fs.filter (·.point != f.point)

/-- A call comes by: whether it fails, and the faults that remain. -/
def strike (p : FaultPoint) : List Fault → Bool × List Fault
  | [] => (false, [])
  | f :: fs =>
    if f.point = p then
      if 0 < f.after then (false, { f with after := f.after - 1 } :: fs)
      else if 0 < f.times then (true, { f with times := f.times - 1 } :: fs)
      else (false, f :: fs)
    else
      let (hit, rest) := strike p fs
      (hit, f :: rest)

/-- Lets a call pass its point. -/
def pass {Draft : Type} (c : Call Draft) (fs : List Fault) : Except StoreError Unit × List Fault :=
  match FaultPoint.ofCall c with
  | none => (.ok (), fs)
  | some p =>
    let (hit, fs) := strike p fs
    if hit then (.error (.backend (p.name ++ " failed")), fs) else (.ok (), fs)

/-- The reply of a search that is made to find nothing. -/
def hide {Draft : Type} (c : Call Draft) (fs : List Fault) : Option c.Reply × List Fault :=
  match c with
  | .findByReference _ =>
    let (hit, fs) := strike .hideReference fs
    (if hit then some (.ok none) else none, fs)
  | _ => (none, fs)

end Fault

/-- A store with faults in front of it. -/
structure Faulty (σ : Type) where
  faults : List Fault
  store : σ

/-- Puts faults in front of a backend. -/
def Backend.withFaults {σ Draft : Type} (b : Backend σ Draft) : Backend (Faulty σ) Draft where
  act c s :=
    match Fault.pass c s.faults with
    | (.error e, fs) => (.error e, [], { s with faults := fs })
    | (.ok (), fs) =>
      match Fault.hide c fs with
      | (some reply, fs) => (reply, [], { s with faults := fs })
      | (none, fs) =>
        let (reply, events, store) := b.act c s.store
        (reply, events, ⟨fs, store⟩)

end Daybook
