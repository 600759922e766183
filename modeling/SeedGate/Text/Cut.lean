import SeedGate.Text.Quoted

/-!
# Cutting text by bytes

A text can be cut after so many bytes of its encoding only where one of its characters
ends. `takeBytes` returns the characters before the cut, or the place of a cut that
would go through a character.
-/

namespace SeedGate.Text

/-- A cut in the middle of a character. -/
structure Cut where
  /-- How many bytes are before the cut. -/
  position : Nat
  /-- The character that would be cut. -/
  char : Char
  /-- How many bytes are before that character. -/
  start : Nat
  deriving DecidableEq, Repr

/-- The cut in words. -/
def Cut.message (cut : Cut) : String :=
  s!"end byte index {cut.position} is not a char boundary; it is inside '" ++
    quotedChar cut.char ++ s!"' (bytes {cut.start}..{cut.start + cut.char.utf8Size} of string)"

/-- The characters within the first `position` bytes of a text that `start` bytes
    precede. -/
def takeBytesFrom (position start : Nat) : List Char → Except Cut (List Char)
  | [] => .ok []
  | c :: cs =>
    let stop := start + c.utf8Size
    if position ≤ start then .ok []
    else if position < stop then .error ⟨position, c, start⟩
    else (takeBytesFrom position stop cs).map (c :: ·)

/-- The characters within the first so many bytes of a text. -/
def takeBytes (position : Nat) (cs : List Char) : Except Cut (List Char) :=
  takeBytesFrom position 0 cs

end SeedGate.Text
