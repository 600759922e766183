import SeedGate.Words

/-!
# Sessions

A session is a sequence of operations on generators that share the state of one
source. A `Request` is an operation of a generator, or of the words over it, as
data; `Generator.serve` carries it out and `Session.play` a whole sequence of
them, each on a generator of its own choosing.

A `Command` is anything that can be done in a session with one generator: a
request, a call of its source, a look at it, or building it anew around the same
source (`Build`). It yields a `Step` and, unless the generator could not be
built, the generator to go on with.
-/

namespace SeedGate

/-- An operation of a generator or of the words over it. -/
inductive Request where
  | poll
  | isSeeded
  | random (buffer : Bytes)
  | tryRandom (buffer : Bytes)
  | randomVec (length : Nat)
  | randomArray (length : Nat)
  | nextU32
  | nextU64
  | fillBytes (buffer : Bytes)
  | tryFillBytes (buffer : Bytes)
  deriving DecidableEq, Repr

/-- What an operation has to say. -/
inductive Answer where
  /-- Nothing but that it is done. -/
  | done
  /-- A truth value. -/
  | truth (b : Bool)
  /-- An answer of the source, or a limit. -/
  | number (n : Int)
  /-- A random word. -/
  | word (n : Nat)
  /-- A text for diagnostics. -/
  | text (s : String)
  /-- That it succeeded, or why not. -/
  | outcome (result : Except Fault Unit)
  /-- The bytes asked for, or why there are none. -/
  | bytes (result : Except Fault Bytes)

/-- One step of a session: the course of an operation, and the buffer as it was
    left if there was one. -/
structure Step (σ ι : Type) extends Run Answer σ ι where
  /-- The buffer afterwards, of an operation on a buffer. -/
  buffer? : Option Bytes

variable {α σ ι : Type}

/-- The run of an operation without a buffer, as a step. -/
def Run.step (run : Run α σ ι) (answer : α → Answer) : Step σ ι :=
  ⟨⟨run.ending.map answer, run.state, run.events⟩, none⟩

/-- The run of an operation on a buffer, as a step. -/
def BufferRun.step (run : BufferRun α σ ι) (answer : α → Answer) : Step σ ι :=
  ⟨⟨run.ending.map answer, run.state, run.events⟩, some run.buffer⟩

/-- Carries out a request. -/
def Generator.serve (g : Generator σ ι) (fuel : Nat) (request : Request) (s : σ) : Step σ ι :=
  let words := Words.ofGenerator g
  match request with
  | .poll => (g.poll fuel s).step fun () => .done
  | .isSeeded => (g.isSeeded s).step .truth
  | .random buffer => (g.random fuel buffer s).step .truth
  | .tryRandom buffer => (g.tryRandom fuel buffer s).step .outcome
  | .randomVec length => (g.randomVec fuel length s).step .bytes
  | .randomArray length => (g.randomArray fuel length s).step .bytes
  | .nextU32 => (words.nextU32 fuel s).step .word
  | .nextU64 => (words.nextU64 fuel s).step .word
  | .fillBytes buffer => (words.fillBytes fuel buffer s).step fun () => .done
  | .tryFillBytes buffer => (words.tryFillBytes fuel buffer s).step .outcome

/-! ## Building and looking -/

/-- The ways to build a generator around a source. -/
inductive Build where
  /-- With the largest limit. -/
  | plain
  /-- With the given limit, or the largest if that is less. -/
  | limited (limit : Nat)
  /-- From a configuration, which has to be valid. -/
  | configured (config : Config)
  deriving DecidableEq, Repr

/-- Builds a generator. -/
def Build.generator (build : Build) (source : Source σ ι) : Except Fault (Generator σ ι) :=
  match build with
  | .plain => .ok (.ofSource source)
  | .limited n => .ok ((Generator.ofSource source).withLimit n)
  | .configured config => Generator.ofConfig source config

/-- What can be done in a session with one generator. -/
inductive Command where
  /-- An operation of the generator. -/
  | request (request : Request)
  /-- A call of the source itself. -/
  | sourceStatus
  | sourceGather
  | sourceFill (buffer : Bytes)
  /-- A look at the limit. -/
  | limit
  /-- A look at the whole generator. -/
  | describe
  /-- Setting another limit. -/
  | setLimit (limit : Nat)
  /-- Taking the source out and building a generator around it again. -/
  | rebuild (build : Build)
  /-- Making the generator one of words. -/
  | intoWords
  deriving DecidableEq, Repr

namespace Session

/-- A step without events in which the state stays as it is. -/
def look (s : σ) (answer : Answer) : Step σ ι := ⟨⟨.returned answer, s, []⟩, none⟩

/-- The step of a call of the source itself. -/
def call (reply : Reply α σ ι) (event : Event ι) (answer : Answer) (buffer? : Option Bytes) :
    Step σ ι :=
  ⟨⟨.returned answer, reply.state, reply.events event⟩, buffer?⟩

/-- Carries out a command. The generator to go on with is missing if it could not
    be built, which ends the session. -/
def perform (serve : Generator σ ι → Request → σ → Step σ ι) (g : Generator σ ι)
    (command : Command) (s : σ) : Step σ ι × Option (Generator σ ι) :=
  match command with
  | .request request => (serve g request s, some g)
  | .sourceStatus =>
    let reply := g.source.status s
    (call reply (.status reply.answer) (.number reply.answer) none, some g)
  | .sourceGather =>
    let reply := g.source.gather s
    (call reply (.gather reply.answer) (.number reply.answer) none, some g)
  | .sourceFill buffer =>
    let filling := g.source.fill buffer s
    (call filling.toReply (.fill buffer filling.answer) (.outcome filling.answer)
      (some filling.buffer), some g)
  | .limit => (look s (.number g.limit), some g)
  | .describe => (look s (.text (g.describe s)), some g)
  | .setLimit n =>
    let g := g.withLimit n
    (look s (.number g.limit), some g)
  | .rebuild build =>
    match build.generator g.source with
    | .ok g => (look s (.number g.limit), some g)
    | .error fault => (look s (.outcome (.error fault)), none)
  | .intoWords =>
    let g := (Words.ofGenerator g).inner
    (look s (.number g.limit), some g)

/-- Carries out requests, each on its own generator, on one shared state. A
    request that is still polling when its rounds are used up is the last. -/
def play (fuel : Nat) : List (Generator σ ι × Request) → σ → List (Step σ ι)
  | [], _ => []
  | (g, request) :: rest, s =>
    let step := g.serve fuel request s
    match step.ending with
    | .unfinished => [step]
    | _ => step :: play fuel rest step.state

end Session

end SeedGate
