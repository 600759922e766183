import SeedGate.Source
import SeedGate.Source.ErrorNumber

/-!
# Kernels

The kernel of an operating system delivers the bytes of one stream, some at every
draw, or refuses a draw with an error number and delivers none. `Kernel` is such
a kernel with its refusals laid down in advance. A draw that a signal interrupts is
tried again, until it ends in some other way; every attempt at a draw of at least
one byte leaves a trace (`Kernel.Draw`).
-/

namespace SeedGate

/-- A kernel: the outcomes of the draws to come and the bytes delivered so far. -/
structure Kernel where
  /-- The outcome of each attempt to come, zero or an error number; all succeed
      once the list is exhausted. -/
  outcomes : List Nat
  /-- How many bytes have been delivered. -/
  delivered : Nat
  deriving DecidableEq, Repr

namespace Kernel

/-- An attempt at a draw, with the error number if it was refused. -/
structure Draw where
  /-- How many bytes were asked for. -/
  length : Nat
  /-- The error number of a refusal. -/
  refusal? : Option Nat
  deriving DecidableEq, Repr

/-- Attempts to draw at least one byte of the stream, of which so many have been
    delivered, until an attempt is not interrupted. -/
def attempt (stream : Nat → UInt8) (length delivered : Nat) :
    (outcomes : List Nat) → Reply (Except Nat Bytes) Kernel Draw
  | [] => deliver []
  | errno :: outcomes =>
    if errno = 0 then deliver outcomes
    else if errno = ErrorNumber.interrupted then
      let later := attempt stream length delivered outcomes
      ⟨later.answer, later.state, ⟨length, some errno⟩ :: later.record⟩
    else ⟨.error errno, ⟨outcomes, delivered⟩, [⟨length, some errno⟩]⟩
where
  /-- Hands over the next bytes of the stream. -/
  deliver (outcomes : List Nat) : Reply (Except Nat Bytes) Kernel Draw :=
    ⟨.ok ((List.range length).map fun i => stream (delivered + i)),
      ⟨outcomes, delivered + length⟩, [⟨length, none⟩]⟩

/-- Draws `length` bytes of the stream, or is refused with an error number. An
    empty draw does not reach the kernel. -/
def draw (stream : Nat → UInt8) (length : Nat) (k : Kernel) :
    Reply (Except Nat Bytes) Kernel Draw :=
  if length = 0 then ⟨.ok [], k, []⟩ else attempt stream length k.delivered k.outcomes

theorem length_of_deliver_eq_ok {stream : Nat → UInt8} {length delivered : Nat}
    {outcomes : List Nat} {b : Bytes}
    (h : (attempt.deliver stream length delivered outcomes).answer = .ok b) :
    b.length = length := by
  cases h
  simp

theorem length_of_attempt_eq_ok {stream : Nat → UInt8} {length delivered : Nat}
    {outcomes : List Nat} {b : Bytes}
    (h : (attempt stream length delivered outcomes).answer = .ok b) : b.length = length := by
  induction outcomes with
  | nil => exact length_of_deliver_eq_ok h
  | cons errno outcomes ih =>
    rw [attempt] at h
    split at h
    · exact length_of_deliver_eq_ok h
    · split at h
      · exact ih h
      · simp at h

theorem length_of_draw_eq_ok {stream : Nat → UInt8} {length : Nat} {k : Kernel} {b : Bytes}
    (h : (draw stream length k).answer = .ok b) : b.length = length := by
  rw [draw] at h
  split at h
  · simp_all
  · exact length_of_attempt_eq_ok h

end Kernel

end SeedGate
