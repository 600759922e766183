/-!
# Levels of attention

What a program has to say about its own running comes at one of five levels,
from errors to traces. A level includes the ones more urgent than itself.
-/

namespace SeedGate.Log

/-- How much a message matters, the most urgent first. -/
inductive Level where
  | error
  | warn
  | info
  | debug
  | trace
  deriving DecidableEq, Repr

namespace Level

/-- The name of a level, as messages bear it. -/
def name : Level → String
  | .error => "ERROR"
  | .warn => "WARN"
  | .info => "INFO"
  | .debug => "DEBUG"
  | .trace => "TRACE"

/-- The place of a level, errors being the first. -/
def rank : Level → Nat
  | .error => 1
  | .warn => 2
  | .info => 3
  | .debug => 4
  | .trace => 5

end Level

end SeedGate.Log
