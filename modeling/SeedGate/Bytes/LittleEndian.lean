import SeedGate.Bytes

/-!
# Little-endian numbers

The number of a byte string is the sum of its bytes, the first counting once
and each further one 256 times as much as the one before it. `encode` writes a
number in a given count of bytes, `decode` reads it back.
-/

namespace SeedGate.LittleEndian

/-- The number that a byte string denotes, its first byte the least significant. -/
def decode : Bytes → Nat
  | [] => 0
  | b :: rest => b.toNat + 256 * decode rest

/-- The `count` low-order bytes of a number, the least significant first. -/
def encode : (count : Nat) → (n : Nat) → Bytes
  | 0, _ => []
  | count + 1, n => UInt8.ofNat (n % 256) :: encode count (n / 256)

/-- Reading a byte string and writing it again in as many bytes gives it back. -/
theorem encode_decode (b : Bytes) : encode b.length (decode b) = b := by
  induction b with
  | nil => rfl
  | cons x rest ih =>
    have hx : x.toNat < 256 := x.toNat_lt
    have hmod : (x.toNat + 256 * decode rest) % 256 = x.toNat := by omega
    have hdiv : (x.toNat + 256 * decode rest) / 256 = decode rest := by omega
    simp [decode, encode, hmod, hdiv, ih]

end SeedGate.LittleEndian
