import Daybook.Text.Divide

/-!
Files and how configurations are looked up among them. A configuration is named by a path without
its extension, which may hold `.`, `..` and double slashes; a path that names a file in full is
taken as it is.
-/

namespace Daybook.Config

/-- Files by path, with what they hold. -/
abbrev Files := List (String × String)

namespace Files

/-- What stands between slashes. -/
def steps (path : String) : List String :=
  (Text.pieces (· == '/') path.toList).map String.ofList

/-- A step that leads nowhere. -/
def isIdle (step : String) : Bool :=
  step == "" || step == "."

/-- The steps of a path that lead somewhere. -/
def parts (path : String) : List String :=
  (steps path).filter (!isIdle ·)

/-- The parts of a path after its steps upwards, which lead out of folders that are there; `none` if
they lead elsewhere. `reached` holds the parts before them, the last one first. -/
def resolve? (isFolder : List String → Bool) (reached : List String) :
    List String → Option (List String)
  | [] => some reached.reverse
  | part :: rest =>
    if part = ".." then
      if reached.isEmpty || !isFolder reached.reverse then none
      else resolve? isFolder reached.tail rest
    else resolve? isFolder (part :: reached) rest

/-- Some file lies below the folder. -/
def hasFolder (files : Files) (folder : List String) : Bool :=
  files.any fun (path, _) => folder.isPrefixOf (parts path).dropLast

/-- What the file at a path holds. -/
def get? (files : Files) (path : List String) : Option String := do
  let path ← resolve? files.hasFolder [] path
  let file ← files.find? fun file => resolve? files.hasFolder [] (parts file.1) == some path
  return file.2

/-- The extension of the files that are read. -/
def extension : String := ".toml"

/-- The path ends in a name and not in a slash. -/
def isName (path : String) : Bool :=
  (steps path).getLast?.any (!isIdle ·)

/-- The path with the extension, if there is a name to put it to. -/
def extended? (path : List String) : Option (List String) :=
  match path.getLast? with
  | some name => if name = ".." then none else some (path.dropLast ++ [name ++ extension])
  | none => none

/-- The name has the extension, behind something else. -/
def isExtended (name : String) : Bool :=
  extension.length < name.length && extension.toList.isSuffixOf name.toList

/-- The configuration of a name. A file that is named in full has to have the extension. -/
def configuration? (files : Files) (path : String) : Option String :=
  let found? := if isName path then files.get? (parts path) else none
  match found? with
  | some file => if (parts path).getLast?.any isExtended then some file else none
  | none => (extended? (parts path)).bind files.get?

/-- The paths at which the configuration of a name can lie. -/
def candidates (path : String) : List String :=
  let full := "/".intercalate <$> extended? (parts path)
  (if isName path then [path] else []) ++ full.toList

end Files
end Daybook.Config
