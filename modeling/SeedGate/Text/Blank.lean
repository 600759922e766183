/-!
# Blanks

A character is blank if it has the Unicode property *White_Space*: the six
ASCII ones, the next-line control, and the space, line and paragraph separators
of every width. `trim` cuts blanks from both ends of a text.
-/

namespace SeedGate.Text

/-- The character has the property *White_Space*. -/
def isBlank (c : Char) : Bool :=
  let n := c.toNat
  (9 ≤ n && n ≤ 13) || n == 0x20 || n == 0x85 || n == 0xA0 || n == 0x1680 ||
    (0x2000 ≤ n && n ≤ 0x200A) || n == 0x2028 || n == 0x2029 || n == 0x202F ||
    n == 0x205F || n == 0x3000

/-- The text without its leading blanks. -/
def trimLeft (cs : List Char) : List Char := cs.dropWhile isBlank

/-- The text without its trailing blanks. -/
def trimRight (cs : List Char) : List Char := (cs.reverse.dropWhile isBlank).reverse

/-- The text without the blanks at either end. -/
def trim (cs : List Char) : List Char := trimRight (trimLeft cs)

/-- The five blanks of ASCII that data formats know: tab, line feed, form feed,
    carriage return and space. -/
def isAsciiBlank (c : Char) : Bool :=
  c == '\t' || c == '\n' || c == '\x0c' || c == '\r' || c == ' '

/-- The ASCII letters in lower case, all else as it is. -/
def lowerAscii (c : Char) : Char :=
  if 'A' ≤ c ∧ c ≤ 'Z' then Char.ofNat (c.toNat + 32) else c

/-- Two texts are equal when the case of ASCII letters does not matter. -/
def sameIgnoringCase (a b : List Char) : Bool := a.map lowerAscii == b.map lowerAscii

/-- The text begins with the given one. -/
def startsWith (cs start : List Char) : Bool := start.isPrefixOf cs

/-- A digit from `0` to `9`. -/
def isDigit (c : Char) : Bool := '0' ≤ c && c ≤ '9'

/-- A letter of ASCII. -/
def isLetter (c : Char) : Bool := ('a' ≤ c && c ≤ 'z') || ('A' ≤ c && c ≤ 'Z')

/-- Trimming makes no text longer. -/
theorem length_trim_le (cs : List Char) : (trim cs).length ≤ cs.length := by
  have hright (ds : List Char) : (trimRight ds).length ≤ ds.length := by
    simpa [trimRight] using (List.dropWhile_suffix isBlank (l := ds.reverse)).length_le
  exact Nat.le_trans (hright _) (List.dropWhile_suffix isBlank).length_le

example (c : Char) (h : c.isWhitespace = true) : isBlank c = true := by
  simp only [Char.isWhitespace, Bool.or_eq_true, decide_eq_true_eq] at h
  rcases h with ((rfl | rfl) | rfl) | rfl <;> decide

end SeedGate.Text
