/-!
How weighty a log event is.
-/

namespace Daybook.Log

inductive Level where
  | error | warn | info | debug
deriving DecidableEq

namespace Level

def name : Level → String
  | .error => "ERROR"
  | .warn => "WARN"
  | .info => "INFO"
  | .debug => "DEBUG"

/-- The weightiest level is 1. -/
def rank : Level → Nat
  | .error => 1
  | .warn => 2
  | .info => 3
  | .debug => 4

end Level
end Daybook.Log
