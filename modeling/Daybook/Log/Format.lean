import Daybook.Named

/-!
How log lines are written.
-/

namespace Daybook.Log

inductive Format where
  /-- For people. -/
  | pretty
  /-- One JSON object a line. -/
  | json
deriving DecidableEq

instance : Named Format where
  noun := "log format"
  all := [.pretty, .json]
  name
    | .pretty => "pretty"
    | .json => "json"

end Daybook.Log
