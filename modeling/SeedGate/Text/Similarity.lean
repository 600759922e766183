import SeedGate.Decimal.Binary64

/-!
# Similar words

The similarity of two words, by which a misspelt one is recognised, is a number
from zero to one: the average of the share of characters in the first word that
have a partner in the second, the share of those in the second that have one in
the first, and the share of partners that come in the same order. Partners are
equal characters at not too different places. The average is taken in floating
point, so it is rounded at every step.
-/

namespace SeedGate.Text

/-- The first place in a word, from `first` to before `last`, that holds the character
    and is not taken. -/
def freePlace? (word : List Char) (c : Char) (taken : List Nat) (first last : Nat) : Option Nat :=
  (word.zipIdx.find? fun (d, j) => first ≤ j && j < last && d == c && !taken.contains j).map (·.2)

/-- The places in the second word of the partners of the characters of the first,
    which begin at place `i`; partners lie at most `reach` places apart. -/
def partners (word : List Char) (reach : Nat) :
    (i : Nat) → (taken : List Nat) → List Char → List (Option Nat)
  | _, _, [] => []
  | i, taken, c :: cs =>
    let place? := freePlace? word c taken (i - reach) (i + reach + 1)
    place? :: partners word reach (i + 1) (place?.toList ++ taken) cs

/-- The average of three shares. -/
def average (a b c : Binary64) : Binary64 := ((a.add b).add c).div (.ofNat 3)

/-- The similarity of two words, the second of which has characters. -/
def similarity (a b : List Char) : Binary64 :=
  let reach := max a.length b.length / 2 - 1
  let places := partners b reach 0 [] a
  let ours := (a.zip places).filterMap fun (c, place?) => place?.map fun _ => c
  let theirs := b.zipIdx.filterMap fun (c, j) => if places.contains (some j) then some c else none
  let m := ours.length
  let share (part whole : Nat) : Binary64 := (Binary64.ofNat part).div (.ofNat whole)
  if m = 0 then .ofNat 0
  else
    let swapped := ((ours.zip theirs).countP fun (c, d) => c != d) / 2
    average (share m a.length) (share m b.length) (share (m - swapped) m)

end SeedGate.Text
