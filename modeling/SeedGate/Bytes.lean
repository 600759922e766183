/-!
# Byte strings

Buffers, files and output are lists of bytes (`Bytes`). A buffer is *blank*
when every byte of it is zero; `wipe` makes it so and keeps its length, which
is all that is ever done to a buffer besides handing it to a source of entropy.
-/

namespace SeedGate

/-- A byte string: a buffer, the contents of a file, or what a program writes. -/
abbrev Bytes := List UInt8

namespace Bytes

/-- The buffer of `n` zero bytes. -/
def zeros (n : Nat) : Bytes := List.replicate n 0

/-- A new buffer of `n` zero bytes, its size put down in a ledger. -/
def allocate (n : Nat) : StateM (List Nat) Bytes := fun ledger => (zeros n, n :: ledger)

/-- The buffer of the same length whose bytes are all zero. -/
def wipe (b : Bytes) : Bytes := zeros b.length

/-- All bytes are zero, as of every buffer a source is asked to fill. -/
def isBlank (b : Bytes) : Bool := b.all (· == 0)

@[simp] theorem length_zeros (n : Nat) : (zeros n).length = n := List.length_replicate

/-- Wiping forgets everything but the length. -/
theorem wipe_congr {a b : Bytes} (h : a.length = b.length) : wipe a = wipe b := by
  rw [wipe, wipe, h]

@[simp] theorem isBlank_zeros (n : Nat) : isBlank (zeros n) = true := by
  simp [isBlank, zeros]

end Bytes

end SeedGate
