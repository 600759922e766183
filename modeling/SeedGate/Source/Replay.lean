import SeedGate.Source

/-!
# Replayed sources

A source that follows a script: its statuses and its progress come from two
lists, the last value taken being repeated once a list is exhausted (zero if none
was ever taken), and each fill follows the next of a list of plans, the last of
which is repeated as well.

A fill that succeeds writes a pattern that depends on its place in the session;
one that fails soils the buffer first, so that whoever forgets to clean up is
found out.
-/

namespace SeedGate.Replay

/-- What a fill is to do. -/
structure Plan where
  /-- How many bytes to write, all if there is no such number. -/
  written? : Option Nat
  /-- The fault to report, if the fill is to fail. -/
  fault? : Option Fault
  deriving Repr

/-- A list of answers, of which the last one taken stays in force. -/
structure Answers where
  /-- The answers still to come. -/
  pending : List Int
  /-- The last answer taken. -/
  last : Int
  deriving Repr

namespace Answers

/-- Nothing has been taken of the list yet. -/
def ofList (answers : List Int) : Answers := ⟨answers, 0⟩

/-- The next answer. -/
def next : Answers → Int × Answers
  | ⟨[], last⟩ => (last, ⟨[], last⟩)
  | ⟨answer :: pending, _⟩ => (answer, ⟨pending, answer⟩)

end Answers

/-- How far a script has been followed. -/
structure State where
  /-- The statuses to report. -/
  statuses : Answers
  /-- The progress that gathering makes. -/
  progress : Answers
  /-- The fills to come; none means one that succeeds. -/
  plans : List Plan
  /-- How many fills there have been. -/
  fills : Nat
  deriving Repr

/-- The beginning of a script. -/
def State.start (statuses progress : List Int) (plans : List Plan) : State :=
  ⟨.ofList statuses, .ofList progress, plans, 0⟩

/-- The byte at place `i` of the buffer that the `k`-th fill writes. -/
def patternByte (k i : Nat) : UInt8 := UInt8.ofNat ((i * 31 + k) % 256)

/-- The buffer with its first `n` bytes replaced by `byte` of their place. -/
def overwrite (n : Nat) (byte : Nat → UInt8) (buffer : Bytes) : Bytes :=
  buffer.zipIdx.map fun (old, i) => if i < n then byte i else old

theorem length_overwrite (n : Nat) (byte : Nat → UInt8) (buffer : Bytes) :
    (overwrite n byte buffer).length = buffer.length := by simp [overwrite]

/-- The plan of the next fill and the plans after it, the last one staying. -/
def nextPlan : List Plan → Plan × List Plan
  | [] => (⟨none, none⟩, [])
  | [plan] => (plan, [plan])
  | plan :: plans => (plan, plans)

/-- One fill, as planned. -/
def fill (buffer : Bytes) (s : State) : Filling State Empty :=
  let k := s.fills + 1
  let (plan, plans) := nextPlan s.plans
  let next := { s with plans := plans, fills := k }
  let n := min (plan.written?.getD buffer.length) buffer.length
  match plan.fault? with
  | some fault => ⟨⟨.error fault, next, []⟩, overwrite n (fun _ => 0xFF) buffer⟩
  | none => ⟨⟨.ok (), next, []⟩, overwrite n (patternByte k) buffer⟩

/-- The source that follows a script. -/
def source : Source State Empty where
  status s := let (answer, statuses) := s.statuses.next; ⟨answer, { s with statuses }, []⟩
  gather s := let (answer, progress) := s.progress.next; ⟨answer, { s with progress }, []⟩
  fill := fill
  describe _ := "Scripted"
  fill_length buffer s := by
    simp only [fill]
    split <;> simp [length_overwrite]

/-- The number of rounds after which both lists are exhausted, so that polling
    has ended by then or never ends. -/
def State.rounds (s : State) : Nat :=
  max 1 (max s.statuses.pending.length s.progress.pending.length)

end SeedGate.Replay
