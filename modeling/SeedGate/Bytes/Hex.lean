import SeedGate.Bytes

/-!
# Hexadecimal text

A byte is written as two digits of `0123456789abcdef`, the high half first
(`encode`). Reading (`decode?`) takes the digits pairwise, in either case, and
undoes writing.

* `spells_encode`: the digits of a byte string spell it (`Spells`).
-/

namespace SeedGate.Hex

/-- The digit of a number below sixteen. -/
def digit (n : Nat) : Char :=
  if n < 10 then Char.ofNat ('0'.toNat + n) else Char.ofNat ('a'.toNat + (n - 10))

/-- The value of a digit. -/
def value? (c : Char) : Option Nat :=
  if '0' ≤ c ∧ c ≤ '9' then some (c.toNat - '0'.toNat)
  else if 'a' ≤ c ∧ c ≤ 'f' then some (c.toNat - 'a'.toNat + 10)
  else if 'A' ≤ c ∧ c ≤ 'F' then some (c.toNat - 'A'.toNat + 10)
  else none

/-- The digits of a byte string, two for every byte. -/
def encode (b : Bytes) : List Char :=
  b.flatMap fun x => [digit (x.toNat / 16), digit (x.toNat % 16)]

/-- The byte string of an even number of digits. -/
def decode? : List Char → Option Bytes
  | [] => some []
  | [_] => none
  | high :: low :: rest => do
    let h ← value? high
    let l ← value? low
    let b ← decode? rest
    return UInt8.ofNat (h * 16 + l) :: b

/-- The value of a nonempty run of digits, read as one number. -/
def number? : List Char → Option Nat
  | [] => none
  | cs => cs.foldlM (fun n c => (value? c).map (n * 16 + ·)) 0

/-- The digits of a number, without leading zeros. -/
def ofNat (n : Nat) : String := String.ofList (Nat.toDigits 16 n)

/-! ## What digits spell -/

/-- The digits of bytes. -/
def alphabet : List Char := "0123456789abcdef".toList

/-- The text spells the bytes: with two digits for each, and so that reading the digits
    pairwise gives the bytes back. -/
structure Spells (digits : List Char) (bytes : Bytes) : Prop where
  length : digits.length = 2 * bytes.length
  mem_alphabet : ∀ c ∈ digits, c ∈ alphabet
  decode : decode? digits = some bytes

theorem lt_of_mem_alphabet {c : Char} (h : c ∈ alphabet) : c.toNat < 0x80 := by
  have hall : alphabet.all (·.toNat < 0x80) := by decide
  exact of_decide_eq_true (List.all_eq_true.1 hall c h)

theorem digit_of_lt {n : Nat} (h : n < 16) : digit n ∈ alphabet ∧ value? (digit n) = some n := by
  have hall : ∀ n ∈ List.range 16, digit n ∈ alphabet ∧ value? (digit n) = some n := by decide
  exact hall n (List.mem_range.2 h)

/-- Every byte string is spelled by its digits. -/
theorem spells_encode (bytes : Bytes) : Spells (encode bytes) bytes := by
  induction bytes with
  | nil => exact ⟨rfl, List.forall_mem_nil _, rfl⟩
  | cons byte rest ih =>
    have hlt : byte.toNat < 256 := byte.toNat_lt
    obtain ⟨hhighMem, hhigh⟩ := digit_of_lt (n := byte.toNat / 16) (by omega)
    obtain ⟨hlowMem, hlow⟩ := digit_of_lt (n := byte.toNat % 16) (Nat.mod_lt _ (by decide))
    have hbyte : byte.toNat / 16 * 16 + byte.toNat % 16 = byte.toNat := Nat.div_add_mod' _ 16
    have hcons : encode (byte :: rest) =
        digit (byte.toNat / 16) :: digit (byte.toNat % 16) :: encode rest := rfl
    rw [hcons]
    refine ⟨?_, ?_, ?_⟩
    · rw [List.length_cons, List.length_cons, List.length_cons, ih.length]
      omega
    · exact List.forall_mem_cons.2 ⟨hhighMem, List.forall_mem_cons.2 ⟨hlowMem, ih.mem_alphabet⟩⟩
    · rw [decode?, hhigh, hlow, ih.decode]
      dsimp only [Option.bind_eq_bind, Option.bind_some]
      rw [hbyte, UInt8.ofNat_toNat]
      rfl

end SeedGate.Hex
