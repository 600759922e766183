import SeedGate.Bytes

/-!
# UTF-8

Bytes are read one at a time into `pieces`: characters, and stretches that can
begin no character. The bytes are text if every piece is a character (`decode?`);
otherwise each broken stretch, the longest that could still have become a
character, can be shown as one replacement character (`lossy`).
-/

namespace SeedGate.Utf8

/-- A character of which some bytes have been read. -/
structure Begun where
  /-- How many bytes are still owed. -/
  owed : Nat
  /-- The least and the greatest byte that may come next. -/
  low : UInt8
  high : UInt8
  /-- The bits read so far. -/
  bits : Nat

/-- What the first byte of a character says: it is one by itself, it begins one,
    or it cannot stand here. -/
inductive First where
  | char (c : Char)
  | begun (b : Begun)
  | broken

/-- The first byte of a character. -/
def first (b : UInt8) : First :=
  let n := b.toNat
  if n < 0x80 then .char (Char.ofNat n)
  else if n < 0xC2 then .broken
  else if n < 0xE0 then .begun ⟨1, 0x80, 0xBF, n - 0xC0⟩
  else if n < 0xF0 then
    .begun ⟨2, if n == 0xE0 then 0xA0 else 0x80, if n == 0xED then 0x9F else 0xBF, n - 0xE0⟩
  else if n < 0xF5 then
    .begun ⟨3, if n == 0xF0 then 0x90 else 0x80, if n == 0xF4 then 0x8F else 0xBF, n - 0xF0⟩
  else .broken

/-- The characters of a byte string, with `none` for each broken stretch, when
    `begun` has been read of the first character. -/
def piecesFrom : (begun : Option Begun) → Bytes → List (Option Char)
  | none, [] => []
  | some _, [] => [none]
  | none, b :: rest =>
    match first b with
    | .char c => some c :: piecesFrom none rest
    | .begun p => piecesFrom (some p) rest
    | .broken => none :: piecesFrom none rest
  | some p, b :: rest =>
    let bits := p.bits * 64 + (b.toNat - 0x80)
    if p.low ≤ b ∧ b ≤ p.high then
      if p.owed ≤ 1 then some (Char.ofNat bits) :: piecesFrom none rest
      else piecesFrom (some ⟨p.owed - 1, 0x80, 0xBF, bits⟩) rest
    else
      match first b with
      | .char c => none :: some c :: piecesFrom none rest
      | .begun q => none :: piecesFrom (some q) rest
      | .broken => none :: none :: piecesFrom none rest

/-- The characters of a byte string, with `none` for each broken stretch. -/
def pieces (b : Bytes) : List (Option Char) := piecesFrom none b

/-- The text of a byte string, if it is well-formed. -/
def decode? (b : Bytes) : Option (List Char) := (pieces b).mapM id

/-- The text of a byte string, a replacement character for each broken stretch. -/
def lossy (b : Bytes) : List Char := (pieces b).map (·.getD '\uFFFD')

/-- The longest text at the beginning of a byte string, and the bytes after it. Every
    round reads one character of at most four bytes, so as many rounds as there are
    bytes suffice. -/
def textBefore : (fuel : Nat) → Bytes → List Char × Bytes
  | 0, b => ([], b)
  | fuel + 1, b =>
    match ([1, 2, 3, 4].findSome? fun n => (decode? (b.take n)).bind (·.head?)) with
    | none => ([], b)
    | some c =>
      let (cs, rest) := textBefore fuel (b.drop c.utf8Size)
      (c :: cs, rest)

/-- The bytes of a text. -/
def encode (cs : List Char) : Bytes := cs.flatMap String.utf8EncodeChar

/-- A character of ASCII is one byte. -/
theorem encode_of_ascii {cs : List Char} (h : ∀ c ∈ cs, c.toNat < 0x80) :
    encode cs = cs.map fun c => .ofNat c.toNat := by
  induction cs with
  | nil => rfl
  | cons c rest ih =>
    obtain ⟨hc, hrest⟩ := List.forall_mem_cons.1 h
    have hsize : c.utf8Size = 1 := Char.utf8Size_eq_one_iff.2 (Nat.le_of_lt_succ hc)
    have hbyte : String.utf8EncodeChar c = [.ofNat c.toNat] :=
      String.utf8EncodeChar_eq_singleton hsize
    rw [encode, List.flatMap_cons, hbyte, List.singleton_append, List.map_cons, ← ih hrest, encode]

end SeedGate.Utf8
