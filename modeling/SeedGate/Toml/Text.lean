import SeedGate.Bytes.Hex
import SeedGate.Text.Blank

/-!
# The text of a TOML document

The smallest pieces of a document: blanks, line ends, comments, strings of all
four kinds, and keys. Each scanner takes the text that begins with the piece and
returns the rest of it, with what the piece denotes; nothing if it is malformed.

A line ends in a line feed, with or without a carriage return before it. A
carriage return stands nowhere else.
-/

namespace SeedGate.Toml

open Text

/-! ## Blanks and comments -/

/-- A blank within a line. -/
def isSpace (c : Char) : Bool := c == ' ' || c == '\t'

/-- The text after its leading blanks, on the same line. -/
def skipSpaces (cs : List Char) : List Char := cs.dropWhile isSpace

/-- A character that can stand in text: a tab, or anything but a control character
    of ASCII. -/
def isText (c : Char) : Bool := c == '\t' || (0x20 ≤ c.toNat && c != '\x7f')

/-- The text after a line end. -/
def lineEnd? : List Char → Option (List Char)
  | '\n' :: rest => some rest
  | '\r' :: '\n' :: rest => some rest
  | _ => none

/-- The text after a comment, if there is one. -/
def skipComment : List Char → List Char
  | '#' :: rest => rest.dropWhile isText
  | cs => cs

/-- The text after the end of a line, which may have blanks and a comment before
    it and may be that of the document. -/
def finishLine (cs : List Char) : Option (List Char) :=
  match skipComment (skipSpaces cs) with
  | [] => some []
  | rest => lineEnd? rest

/-- The text after blanks, line ends and comments, which it begins with or, if
    `inComment` is set, is in the middle of. -/
def skipGapsFrom : (inComment : Bool) → List Char → List Char
  | _, '\n' :: rest => skipGapsFrom false rest
  | _, '\r' :: '\n' :: rest => skipGapsFrom false rest
  | true, c :: rest => if isText c then skipGapsFrom true rest else c :: rest
  | false, ' ' :: rest => skipGapsFrom false rest
  | false, '\t' :: rest => skipGapsFrom false rest
  | false, '#' :: rest => skipGapsFrom true rest
  | _, cs => cs

/-- The text after its leading blanks, line ends and comments. -/
def skipGaps (cs : List Char) : List Char := skipGapsFrom false cs

/-! ## Strings -/

/-- The character whose number is written with exactly `count` digits. -/
def scalar (count : Nat) (cs : List Char) : Option (Char × List Char) := do
  let digits := cs.take count
  let n ← Hex.number? digits
  if digits.length = count ∧ n.isValidChar then some (Char.ofNat n, cs.drop count) else none

/-- The character that an escape after its backslash stands for. -/
def escaped : List Char → Option (Char × List Char)
  | 'b' :: rest => some ('\x08', rest)
  | 'f' :: rest => some ('\x0c', rest)
  | 'n' :: rest => some ('\n', rest)
  | 'r' :: rest => some ('\r', rest)
  | 't' :: rest => some ('\t', rest)
  | '"' :: rest => some ('"', rest)
  | '\\' :: rest => some ('\\', rest)
  | 'u' :: rest => scalar 4 rest
  | 'U' :: rest => scalar 8 rest
  | _ => none

/-- The text after a backslash at the end of a line: the next character that is
    neither a blank nor a line end. -/
def joinLines? (cs : List Char) : Option (List Char) :=
  (lineEnd? (skipSpaces cs)).map skipLines
where
  /-- The text after its leading blanks and line ends. -/
  skipLines : List Char → List Char
    | ' ' :: rest => skipLines rest
    | '\t' :: rest => skipLines rest
    | '\n' :: rest => skipLines rest
    | '\r' :: '\n' :: rest => skipLines rest
    | cs => cs

/-- The kinds of strings. -/
structure Quote where
  /-- What the string is enclosed in: one kind of quote, once or three times. -/
  mark : Char
  /-- It goes over lines, between three quotes each. -/
  long : Bool
  deriving DecidableEq, Repr

/-- A string in double quotes has escapes, one in single quotes does not. -/
def Quote.hasEscapes (q : Quote) : Bool := q.mark == '"'

/-- How many times a character stands at the beginning of a text. -/
def countOf (mark : Char) (cs : List Char) : Nat := (cs.takeWhile (· == mark)).length

/-- The rest of a string, and what follows it. Up to two quotes can stand before the
    three that close a long string. Every round consumes a character, so as many
    rounds as there are characters suffice. -/
def stringFrom (q : Quote) : (fuel : Nat) → List Char → Option (List Char × List Char)
  | 0, _ => none
  | fuel + 1, cs =>
    let on (c : Char) (rest : List Char) : Option (List Char × List Char) :=
      (stringFrom q fuel rest).map fun (s, rest) => (c :: s, rest)
    match cs with
    | [] => none
    | c :: rest =>
      if c = q.mark then
        let count := countOf c cs
        if !q.long then some ([], rest)
        else if count < 3 then on c rest
        else if count ≤ 5 then some (List.replicate (count - 3) c, cs.drop count)
        else none
      else if c = '\\' ∧ q.hasEscapes then
        match if q.long then joinLines? rest else none with
        | some rest => stringFrom q fuel rest
        | none => (escaped rest).bind fun (c, rest) => on c rest
      else
        match if q.long then lineEnd? cs else none with
        | some rest => on '\n' rest
        | none => if isText c then on c rest else none

/-- A string within a line, after its opening quote. -/
def shortString (mark : Char) (cs : List Char) : Option (List Char × List Char) :=
  stringFrom ⟨mark, false⟩ cs.length cs

/-- A string that begins with the given quote, which the text begins with. A line
    end right after three quotes is not part of it. -/
def string (mark : Char) (cs : List Char) : Option (List Char × List Char) :=
  if startsWith cs [mark, mark, mark] then
    let body := cs.drop 3
    let body := (lineEnd? body).getD body
    stringFrom ⟨mark, true⟩ body.length body
  else shortString mark cs.tail

/-! ## Keys -/

/-- A key: a name, and those of the tables on the way to it. -/
structure Key where
  /-- The tables on the way, from the outermost. -/
  within : List (List Char)
  /-- The name in the innermost of them. -/
  name : List Char
  deriving DecidableEq, Repr

/-- A character that can stand in an unquoted name. -/
def isNameChar (c : Char) : Bool := isLetter c || isDigit c || c == '_' || c == '-'

/-- One name of a key. -/
def name (cs : List Char) : Option (List Char × List Char) :=
  match cs with
  | '"' :: rest => shortString '"' rest
  | '\'' :: rest => shortString '\'' rest
  | _ =>
    let (name, rest) := cs.span isNameChar
    if name.isEmpty then none else some (name, rest)

/-- The most names in a key, and the most brackets around a value. -/
def maxDepth : Nat := 79

/-- A key with the blanks around its names; it has at most `fuel` of them. -/
def keyUpTo : (fuel : Nat) → List Char → Option (Key × List Char)
  | 0, _ => none
  | fuel + 1, cs => do
    let (first, rest) ← name (skipSpaces cs)
    match skipSpaces rest with
    | '.' :: rest =>
      let (key, rest) ← keyUpTo fuel rest
      return (⟨first :: key.within, key.name⟩, rest)
    | rest => return (⟨[], first⟩, rest)

/-- A key with the blanks around its names. -/
def key (cs : List Char) : Option (Key × List Char) := keyUpTo maxDepth cs

end SeedGate.Toml
