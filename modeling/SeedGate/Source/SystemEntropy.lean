import SeedGate.Source.Kernel

/-!
# The entropy of the operating system

The source over a kernel owns no entropy. It notes whether a probe has
succeeded, and says that it is unseeded until then. A gathering pass is a probe:
a draw of one byte, which is thrown away. A fill is a draw of as many bytes as
the buffer has, and does not count as a probe.
-/

namespace SeedGate

namespace SystemEntropy

/-- The state of the source: its kernel, and whether a probe has succeeded. -/
structure State where
  /-- The kernel that the source draws from. -/
  kernel : Kernel
  /-- A probe has succeeded. -/
  seeded : Bool
  deriving DecidableEq, Repr

/-- A source that has not drawn yet. -/
def State.fresh (outcomes : List Nat) : State := ⟨⟨outcomes, 0⟩, false⟩

/-- What happens inside the source: draws, and notes about probes. -/
inductive Happening where
  | draw (draw : Kernel.Draw)
  | note (note : Log.Note)
  deriving DecidableEq, Repr

/-- The attempt at a draw that an event is, if it is one. -/
def drawOf? : Event Happening → Option Kernel.Draw
  | .inside (.draw draw) => some draw
  | _ => none

/-- The attempts at draws among events, in their order. -/
def draws (events : List (Event Happening)) : List Kernel.Draw := events.filterMap drawOf?

/-- Zero or one, as a probe has succeeded or not. -/
def status (s : State) : Reply Int State Happening := ⟨if s.seeded then 1 else 0, s, []⟩

/-- A probe of one byte. -/
def gather (stream : Nat → UInt8) (s : State) : Reply Int State Happening :=
  let probe := s.kernel.draw stream 1
  let draws := probe.record.map .draw
  match probe.answer with
  | .ok _ => ⟨1, ⟨probe.state, true⟩, draws ++ [.note .probeConfirmed]⟩
  | .error errno =>
    ⟨0, ⟨probe.state, s.seeded⟩, draws ++ [.note (.probeFailed (ErrorNumber.name errno))]⟩

/-- A draw of as many bytes as the buffer has. A refusal leaves the buffer alone. -/
def fill (stream : Nat → UInt8) (buffer : Bytes) (s : State) : Filling State Happening :=
  let drawn := s.kernel.draw stream buffer.length
  let next : State := ⟨drawn.state, s.seeded⟩
  let draws := drawn.record.map .draw
  match drawn.answer with
  | .ok bytes => ⟨⟨.ok (), next, draws⟩, bytes⟩
  | .error errno => ⟨⟨.error (.generation (ErrorNumber.name errno)), next, draws⟩, buffer⟩

/-- The state in diagnostics. -/
def describe (s : State) : String :=
  "OsEntropy \x7b seeded: " ++ toString s.seeded ++ " \x7d"

/-- The source over a kernel that delivers the given stream. -/
def source (stream : Nat → UInt8) : Source State Happening where
  status := status
  gather := gather stream
  fill := fill stream
  describe := describe
  fill_length buffer s := by
    simp only [fill]
    split
    · rename_i h
      exact Kernel.length_of_draw_eq_ok h
    · rfl

/-- Two rounds of polling always suffice: a probe either seeds the source or
    makes no progress. -/
def rounds : Nat := 2

end SystemEntropy

end SeedGate
