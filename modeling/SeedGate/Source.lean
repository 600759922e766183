import SeedGate.Bytes
import SeedGate.Log.Note

/-!
# Sources of entropy

A `Source` is a state machine with three calls: `status` tells whether it is
seeded, `gather` makes one best-effort pass at collecting entropy and tells
whether that led anywhere, and `fill` overwrites a buffer with random bytes. It
may answer what it likes and change its state on every call; `fill` may write
any part of the buffer before it succeeds or fails, but cannot change its
length.

Every call yields a `Reply`: the answer, the next state and a record of what
went on inside. Seen from outside it is a list of events (`Reply.events`): that
record, then the call itself with its answer.
-/

namespace SeedGate

/-- What happens in the course of a request, in the terms `ι` of its source. -/
inductive Event (ι : Type) where
  /-- The source was asked for its status. -/
  | status (answer : Int)
  /-- The source was told to gather entropy. -/
  | gather (answer : Int)
  /-- The source was given a buffer with these contents to fill. -/
  | fill (entry : Bytes) (answer : Except Fault Unit)
  /-- Something happened inside the source. -/
  | inside (what : ι)
  /-- Something was written down. -/
  | note (note : Log.Note)

/-- The answer to a call, the state after it, and what went on meanwhile. -/
structure Reply (α σ ι : Type) where
  /-- The answer. -/
  answer : α
  /-- The state of the source after the call. -/
  state : σ
  /-- What happened inside the source. -/
  record : List ι

/-- A reply with the buffer as the source left it. -/
structure Filling (σ ι : Type) extends Reply (Except Fault Unit) σ ι where
  /-- The buffer after the call. -/
  buffer : Bytes

/-- A source of entropy with states `σ`. -/
structure Source (σ ι : Type) where
  /-- The seeded status: zero for unseeded, negative for malformed. -/
  status : σ → Reply Int σ ι
  /-- One pass at gathering entropy: zero for no progress. -/
  gather : σ → Reply Int σ ι
  /-- Overwrites a buffer with random bytes, or fails. -/
  fill : Bytes → σ → Filling σ ι
  /-- How a state is shown in diagnostics. -/
  describe : σ → String
  /-- A buffer keeps its length. -/
  fill_length : ∀ buffer state, (fill buffer state).buffer.length = buffer.length

variable {α σ ι : Type}

/-- A call as it is seen from outside: what happened inside it, then the call. -/
def Reply.events (reply : Reply α σ ι) (call : Event ι) : List (Event ι) :=
  reply.record.map .inside ++ [call]

attribute [simp] Source.fill_length

end SeedGate
