import SeedGate.Bytes.LittleEndian
import SeedGate.Generator

/-!
# Words

`Words` hands out the bytes of a generator as 32-bit and 64-bit numbers, the
first byte the least significant, and as filled buffers. Whoever asks for a word
has no way to learn of a failure, so a failed request is past remedy there, as
it is in `fillBytes`; `tryFillBytes` reports it.
-/

namespace SeedGate

/-- A generator of words. -/
structure Words (σ ι : Type) where
  /-- The generator that the bytes come from. -/
  inner : Generator σ ι

namespace Words

variable {σ ι : Type}

/-- The generator of words over a generator. -/
def ofGenerator (g : Generator σ ι) : Words σ ι := ⟨g⟩

/-- The generator of words over a source, with the largest limit there is. -/
def ofSource (source : Source σ ι) : Words σ ι := ⟨.ofSource source⟩

/-- Fills a buffer, or reports why not. -/
def tryFillBytes (w : Words σ ι) (fuel : Nat) (buffer : Bytes) (s : σ) :
    BufferRun (Except Fault Unit) σ ι :=
  w.inner.tryRandom fuel buffer s

/-- Fills a buffer, or gives up for good. -/
def fillBytes (w : Words σ ι) (fuel : Nat) (buffer : Bytes) (s : σ) : BufferRun Unit σ ι :=
  let tried := w.tryFillBytes fuel buffer s
  let ending : Ending Unit :=
    match tried.ending with
    | .returned (.ok ()) => .returned ()
    | .returned (.error fault) => .panicked (.fillFailed fault)
    | .panicked p => .panicked p
    | .unfinished => .unfinished
  ⟨⟨ending, tried.state, tried.events⟩, tried.buffer⟩

/-- The next word of `width` bytes. -/
def next (w : Words σ ι) (fuel width : Nat) (s : σ) : Run Nat σ ι :=
  let run := w.fillBytes fuel (Bytes.zeros width) s
  ⟨run.ending.map fun () => LittleEndian.decode run.buffer, run.state, run.events⟩

/-- The next 32-bit word. -/
def nextU32 (w : Words σ ι) (fuel : Nat) (s : σ) : Run Nat σ ι := w.next fuel 4 s

/-- The next 64-bit word. -/
def nextU64 (w : Words σ ι) (fuel : Nat) (s : σ) : Run Nat σ ι := w.next fuel 8 s

end Words

end SeedGate
