import Daybook.Config.Value

/-!
Documents that set keys within tables. A document is a list of definitions, each at its full path; a
path is defined once. A table is there because a section opens it, because a path goes through it,
or because a dotted key does; a section can open a table that only longer paths have named so far,
and keys do not reach into a table that has a section of its own.
-/

namespace Daybook.Config

inductive Definition where
  | value (v : Value)
  /-- A table that a section opened. -/
  | opened
  /-- A table on the way to a section. -/
  | implied
  /-- A table on the way to a key. -/
  | dotted

/-- The definitions by path, the newest first. -/
abbrev Document := List (List String × Definition)

namespace Document

/-- The paths that lead to a path, the shortest first. -/
def ancestors (path : List String) : List (List String) :=
  (List.range path.length).map path.take

/-- Passes through a table on the way to a section. -/
def pass? (d : Document) (path : List String) : Option Document :=
  if path.isEmpty then some d
  else
    match d.lookup path with
    | none => some ((path, .implied) :: d)
    | some (.value _) => none
    | some _ => some d

def openSection? (d : Document) (path : List String) : Option Document := do
  let d ← (ancestors path).foldlM pass? d
  match d.lookup path with
  | none => some ((path, .opened) :: d)
  | some .implied => some ((path, .opened) :: d)
  | some _ => none

/-- Reaches through a table on the way to a key. -/
def reach? (d : Document) (path : List String) : Option Document :=
  match d.lookup path with
  | none => some ((path, .dotted) :: d)
  | some .implied => some d
  | some .dotted => some d
  | some _ => none

/-- Sets a key of a section. -/
def assign? (d : Document) (keys : List String) (v : Value) (inSection : List String) :
    Option Document := do
  let d ← ((ancestors keys).drop 1).foldlM (fun d p => reach? d (inSection ++ p)) d
  let path := inSection ++ keys
  if (d.lookup path).isSome then none else some ((path, .value v) :: d)

/-- The tree that the definitions describe. -/
def toValue (d : Document) : Value :=
  let branch := fun (path, definition) =>
    match definition with
    | .value v => Value.under path v
    | _ => Value.under path (.table [])
  .table (layered (d.reverse.map branch))

end Document
end Daybook.Config
