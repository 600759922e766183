import SeedGate.Config
import SeedGate.Source

/-!
# The generator

A `Generator` pairs a source of entropy with a limit on the size of a request.
Before every draw it polls the source (`poll`): it asks for the status, and for
a round of gathering while the status says unseeded, until a round makes no
progress. Then it has the source fill the buffer, once.

A request larger than the limit is refused before anything is touched. Any other
request zeroes the buffer first and leaves it all zero if it fails, and an empty
one is done with that (`tryRandom`).

Polling need not end, so it is given a number of rounds to go through at most;
an operation that has used them up is `unfinished`, which is no outcome of its
own but the news that more rounds are needed to tell.
-/

namespace SeedGate

/-- Why an operation gave up for good. -/
inductive Panic where
  /-- The source reported a negative status. -/
  | malformedStatus (status : Int)
  /-- Bytes were demanded from a word generator, and the request failed. -/
  | fillFailed (fault : Fault)
  deriving DecidableEq, Repr

/-- The last words of an operation that gave up. -/
def Panic.message : Panic → String
  | .malformedStatus status => s!"entropy source reported malformed status {status}"
  | .fillFailed fault => "secure random generation failed: " ++ fault.message

/-- How an operation ended. -/
inductive Ending (α : Type) where
  /-- It returned a result. -/
  | returned (result : α)
  /-- It gave up for good. -/
  | panicked (panic : Panic)
  /-- It was still polling when the rounds were used up. -/
  | unfinished
  deriving Repr

/-- The ending with the result replaced. -/
def Ending.map {α β : Type} (f : α → β) : Ending α → Ending β
  | .returned a => .returned (f a)
  | .panicked p => .panicked p
  | .unfinished => .unfinished

/-- The course of an operation: its ending, the state of the source after it,
    and all that happened, in order. -/
structure Run (α σ ι : Type) where
  /-- How the operation ended. -/
  ending : Ending α
  /-- The state of the source afterwards. -/
  state : σ
  /-- What happened. -/
  events : List (Event ι)

/-- The course of an operation on a buffer, with the buffer as it was left. -/
structure BufferRun (α σ ι : Type) extends Run α σ ι where
  /-- The buffer afterwards. -/
  buffer : Bytes

variable {α β σ ι : Type}

/-- The run of an operation that hands its buffer over if it was filled. -/
def BufferRun.handOver (run : BufferRun (Except Fault Unit) σ ι) : Run (Except Fault Bytes) σ ι :=
  ⟨run.ending.map fun result => result.map fun () => run.buffer, run.state, run.events⟩

/-- A source of entropy with the size of the largest request to accept. -/
structure Generator (σ ι : Type) where
  /-- Where the bytes come from. -/
  source : Source σ ι
  /-- The largest request, in bytes. -/
  limit : Nat

namespace Generator

/-! ## Building -/

/-- The generator with the largest limit there is. -/
def ofSource (source : Source σ ι) : Generator σ ι := ⟨source, platformMax⟩

/-- The generator with its limit set to `n`, or to the largest limit if `n` is
    larger still. -/
def withLimit (g : Generator σ ι) (n : Nat) : Generator σ ι := ⟨g.source, min n platformMax⟩

/-- The generator of a configuration that passes validation. -/
def ofConfig (source : Source σ ι) (config : Config) : Except Fault (Generator σ ι) :=
  config.validate.map fun () => (ofSource source).withLimit config.maxRequestLen

/-- A valid configuration makes a generator with the very limit it says. -/
theorem ofConfig_of_valid {config : Config} (h : config.validate = .ok ()) (source : Source σ ι) :
    ofConfig source config = .ok ⟨source, config.maxRequestLen⟩ := by
  have hle := Config.validate_eq_ok_iff.1 h
  rw [ofConfig, h, withLimit, Nat.min_eq_left hle]
  rfl

/-- The generator in diagnostics. -/
def describe (g : Generator σ ι) (s : σ) : String :=
  "SecureRandom \x7b source: " ++ g.source.describe s ++ ", max_request_len: " ++
    toString g.limit ++ " \x7d"

/-! ## Polling -/

/-- Asks whether the source is seeded; a negative status is past remedy. -/
def isSeeded (g : Generator σ ι) (s : σ) : Run Bool σ ι :=
  let reply := g.source.status s
  let events := reply.events (.status reply.answer)
  if reply.answer < 0 then ⟨.panicked (.malformedStatus reply.answer), reply.state, events⟩
  else ⟨.returned (reply.answer != 0), reply.state, events⟩

/-- Polls on after `rounds` rounds, for `fuel` more at most; `past` is what has
    happened so far, the latest first. -/
-- The rounds are numbered in 64 bits by the program. They are counted up one by one, so
-- that no run gets to where the number would not fit.
def pollFrom (g : Generator σ ι) : (fuel rounds : Nat) → σ → (past : List (Event ι)) → Run Unit σ ι
  | 0, _, s, past => ⟨.unfinished, s, past.reverse⟩
  | fuel + 1, rounds, s, past =>
    let asked := g.isSeeded s
    let past := asked.events.reverse ++ past
    match asked.ending with
    | .unfinished => ⟨.unfinished, asked.state, past.reverse⟩
    | .panicked p => ⟨.panicked p, asked.state, past.reverse⟩
    | .returned true => ⟨.returned (), asked.state, past.reverse⟩
    | .returned false =>
      let gathered := g.source.gather asked.state
      let past := (gathered.events (.gather gathered.answer)).reverse ++ past
      if gathered.answer = 0 then
        ⟨.returned (), gathered.state, (.note (.stalled (rounds + 1)) :: past).reverse⟩
      else
        pollFrom g fuel (rounds + 1) gathered.state
          (.note (.gathered (rounds + 1) gathered.answer) :: past)

/-- Asks for the status and gathers entropy in turn until the source is seeded or
    makes no progress, for `fuel` rounds at most. -/
def poll (g : Generator σ ι) (fuel : Nat) (s : σ) : Run Unit σ ι := g.pollFrom fuel 0 s []

/-! ## Requests -/

/-- Fills a buffer with random bytes. One larger than the limit is refused
    untouched; any other holds random bytes afterwards, or zeros if the request
    failed. -/
def tryRandom (g : Generator σ ι) (fuel : Nat) (buffer : Bytes) (s : σ) :
    BufferRun (Except Fault Unit) σ ι :=
  if g.limit < buffer.length then
    ⟨⟨.returned (.error (.tooLarge buffer.length g.limit)), s,
      [.note (.oversized buffer.length g.limit)]⟩, buffer⟩
  else
    let wiped := buffer.wipe
    if buffer.isEmpty then ⟨⟨.returned (.ok ()), s, []⟩, wiped⟩
    else
      let polled := g.poll fuel s
      match polled.ending with
      | .unfinished => ⟨⟨.unfinished, polled.state, polled.events⟩, wiped⟩
      | .panicked p => ⟨⟨.panicked p, polled.state, polled.events⟩, wiped⟩
      | .returned () =>
        let filling := g.source.fill wiped polled.state
        let events := polled.events ++ filling.toReply.events (.fill wiped filling.answer)
        match filling.answer with
        | .ok () => ⟨⟨.returned (.ok ()), filling.state, events⟩, filling.buffer⟩
        | .error fault =>
          ⟨⟨.returned (.error fault), filling.state, events⟩, filling.buffer.wipe⟩

/-- Fills a buffer and reports only whether that succeeded; a failure is noted. -/
def random (g : Generator σ ι) (fuel : Nat) (buffer : Bytes) (s : σ) : BufferRun Bool σ ι :=
  let tried := g.tryRandom fuel buffer s
  match tried.ending with
  | .unfinished => ⟨⟨.unfinished, tried.state, tried.events⟩, tried.buffer⟩
  | .panicked p => ⟨⟨.panicked p, tried.state, tried.events⟩, tried.buffer⟩
  | .returned (.ok ()) => ⟨⟨.returned true, tried.state, tried.events⟩, tried.buffer⟩
  | .returned (.error fault) =>
    ⟨⟨.returned false, tried.state,
      tried.events ++ [.note (.requestFailed buffer.length fault)]⟩, tried.buffer⟩

/-- A new vector of `n` random bytes. Its buffer is made by `allocate`, which may have effects
    of its own, such as an entry in a ledger (`Bytes.allocate`). A request over the limit is
    refused before there is a buffer. -/
def randomVecVia {m : Type → Type} [Monad m] (allocate : Nat → m Bytes) (g : Generator σ ι)
    (fuel n : Nat) (s : σ) : m (Run (Except Fault Bytes) σ ι) :=
  if g.limit < n then pure ⟨.returned (.error (.tooLarge n g.limit)), s, []⟩
  else do
    let buffer ← allocate n
    pure (g.tryRandom fuel buffer s).handOver

/-- A new vector of `n` random bytes, its buffer made without a ledger. -/
def randomVec (g : Generator σ ι) (fuel n : Nat) (s : σ) : Run (Except Fault Bytes) σ ι :=
  (g.randomVecVia (fun n => (pure (Bytes.zeros n) : Id Bytes)) fuel n s).run

theorem randomVec_eq (g : Generator σ ι) (fuel n : Nat) (s : σ) :
    g.randomVec fuel n s =
      if g.limit < n then ⟨.returned (.error (.tooLarge n g.limit)), s, []⟩
      else (g.tryRandom fuel (Bytes.zeros n) s).handOver := by
  rw [randomVec, randomVecVia]
  split <;> rfl

/-- An array of `n` random bytes. -/
def randomArray (g : Generator σ ι) (fuel n : Nat) (s : σ) : Run (Except Fault Bytes) σ ι :=
  (g.tryRandom fuel (Bytes.zeros n) s).handOver

end Generator

end SeedGate
