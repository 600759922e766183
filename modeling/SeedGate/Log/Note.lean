import SeedGate.Fault
import SeedGate.Log.Level

/-!
# Notes

What a generator and the source of the operating system write down while they
work: rounds of gathering, requests that were refused or failed, and probes of
the kernel. A `Note` has a level, a topic that names the part of the library it
comes from, and a text, its details following as `name=value`.
-/

namespace SeedGate.Log

/-- Something worth writing down about a request. -/
inductive Note where
  -- Rounds are numbered in 64 bits by the program, from one on and one by one. A `Nat`
  -- stands for that, since no run gets to where the number would not fit.
  /-- A round of gathering made progress; the status is asked for again. -/
  | gathered (rounds : Nat) (progress : Int)
  /-- A round of gathering made no progress, so polling gives up. -/
  | stalled (rounds : Nat)
  /-- A request was larger than the limit. -/
  | oversized (requested limit : Nat)
  /-- A request reported by a truth value alone has failed. -/
  | requestFailed (length : Nat) (fault : Fault)
  /-- The kernel has delivered a byte for the first time. -/
  | probeConfirmed
  /-- The kernel has refused a byte. -/
  | probeFailed (reason : String)
  deriving DecidableEq, Repr

namespace Note

/-- How much a note matters. -/
def level : Note → Level
  | .gathered .. => .trace
  | .stalled .. => .warn
  | .oversized .. => .debug
  | .requestFailed .. => .warn
  | .probeConfirmed => .debug
  | .probeFailed .. => .warn

/-- The part of the library that a note comes from. -/
def topic : Note → String
  | .probeConfirmed | .probeFailed .. => "seeded_random::entropy::os"
  | _ => "seeded_random::random"

/-- What the details of a note are called. -/
def details : Note → List String
  | .gathered .. => ["rounds", "progress"]
  | .stalled .. => ["rounds"]
  | .oversized .. => ["requested", "max"]
  | .requestFailed .. => ["len", "error"]
  | .probeConfirmed => []
  | .probeFailed .. => ["error"]

/-- The note in words, then its details. -/
def text : Note → String
  | .gathered rounds progress =>
    s!"entropy gathered, re-checking seed status rounds={rounds} progress={progress}"
  | .stalled rounds =>
    s!"entropy gathering made no progress, source still unseeded rounds={rounds}"
  | .oversized requested limit =>
    s!"rejecting oversized random request requested={requested} max={limit}"
  | .requestFailed length fault =>
    s!"secure random request failed len={length} error=" ++ fault.message
  | .probeConfirmed => "operating system entropy source confirmed seeded"
  | .probeFailed reason => "operating system entropy probe failed error=" ++ reason

end Note

end SeedGate.Log
