import Daybook.Config.Value

/-!
Environment variables as settings. The variable `LEDGER__A__B`, in any case, sets the key `b` of the
table `a`. Of two variables with one name the first counts; of two names for one key, the later one.
-/

namespace Daybook.Config

/-- Variables by name, in their order. -/
abbrev Environment := List (String × String)

namespace Environment

/-- The environment with a variable, unless it has one of that name. -/
def add (env : Environment) (name value : String) : Environment :=
  if (env.lookup name).isSome then env else env ++ [(name, value)]

/-- The characters with a point for each double underscore. -/
def withPoints : List Char → List Char
  | [] => []
  | '_' :: '_' :: rest => '.' :: withPoints rest
  | c :: rest => c :: withPoints rest

/-- The environment with a variable, unless it has one of that name. No variable can hold the
character NUL. -/
def define? (env : Environment) (name value : String) : Option Environment :=
  if (env.lookup name).isNone && value.toList.contains '\x00' then none
  else some (env.add name value)

/-- The variables without those whose name came before. -/
def distinct (env : Environment) : Environment :=
  env.foldl (fun known v => known.add v.1 v.2) []

/-- What variables for settings start with, in lower case. -/
def start : List Char :=
  ['l', 'e', 'd', 'g', 'e', 'r', '_', '_']

/-- The path of the key that a variable of this name sets. -/
def settingPath? (name : String) : Option (List String) :=
  let cs := name.toList.map Char.toLower
  if cs.take start.length = start then path? (withPoints (cs.drop start.length)) else none

/-- The settings that the variables make, each to be laid over those before it. -/
def settings (env : Environment) : List Value :=
  env.distinct.filterMap fun (name, text) =>
    (settingPath? name).map fun path => .under path (.text text)

end Environment
end Daybook.Config
