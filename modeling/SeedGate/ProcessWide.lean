import SeedGate.Session
import SeedGate.Source.SystemEntropy

/-!
# The generator of the process

Every process has one generator over the entropy of its operating system, with
the largest limit there is. The functions here draw from it without having to be
given it. Its state begins as `SystemEntropy.State.fresh`.
-/

namespace SeedGate.ProcessWide

open SystemEntropy

variable (stream : Nat → UInt8)

/-- The generator of the process. -/
def system : Generator State Happening := .ofSource (source stream)

/-- Polls the source of the process. -/
def poll (s : State) : Run Unit State Happening := (system stream).poll rounds s

/-- Fills a buffer and tells whether that succeeded. -/
def random (buffer : Bytes) (s : State) : BufferRun Bool State Happening :=
  (system stream).random rounds buffer s

/-- Fills a buffer, or reports why not. -/
def tryRandom (buffer : Bytes) (s : State) :
    BufferRun (Except Fault Unit) State Happening :=
  (system stream).tryRandom rounds buffer s

/-- A new buffer of random bytes. -/
def randomVec (length : Nat) (s : State) : Run (Except Fault Bytes) State Happening :=
  (system stream).randomVec rounds length s

/-- An array of random bytes. -/
def randomArray (length : Nat) (s : State) : Run (Except Fault Bytes) State Happening :=
  (system stream).randomArray rounds length s

/-- Carries out a request by the functions of the process, where there is one for
    it, and by its generator otherwise. -/
def serve (request : Request) (s : State) : Step State Happening :=
  match request with
  | .poll => (poll stream s).step fun () => .done
  | .random buffer => (random stream buffer s).step .truth
  | .tryRandom buffer => (tryRandom stream buffer s).step .outcome
  | .randomVec length => (randomVec stream length s).step .bytes
  | .randomArray length => (randomArray stream length s).step .bytes
  | other => (system stream).serve rounds other s

end SeedGate.ProcessWide
