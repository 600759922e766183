import SeedGate.Text.Blank
import SeedGate.Text.Utf8

/-!
# The lines of an environment file

A line of an environment file goes on past a line feed while a quote is open.
`lines` puts the lines of the file together accordingly, following each with the
`Outlook` at the end of what has been read of it, and cuts comments off.

Nothing after the first thing wrong counts: a line whose bytes are not text is not
among the lines. Nor is one that the end of the file cuts short, in an open quote
or, without a line feed, after a backslash or an odd run of blanks.
-/

namespace SeedGate.EnvFile

open Text

/-- What a line is in the middle of. -/
inductive Outlook where
  /-- Nothing: the line can end here. -/
  | complete
  /-- A blank that a comment may follow. -/
  | blank
  /-- A backslash outside quotes. -/
  | escape
  /-- Single quotes, and a backslash in them. -/
  | single
  | singleEscape
  /-- Double quotes, and a backslash in them. -/
  | double
  | doubleEscape
  deriving DecidableEq, Repr

/-- What a character opens outside quotes. -/
def Outlook.opened : Char → Outlook
  | '\\' => .escape
  | '"' => .double
  | '\'' => .single
  | _ => .complete

/-- What a line is in the middle of after another character. -/
def Outlook.next : Outlook → Char → Outlook
  | .complete, c => if isBlank c ∧ c ≠ '\n' ∧ c ≠ '\r' then .blank else opened c
  | .blank, c => opened c
  | .escape, _ => .complete
  | .single, c => if c = '\\' then .singleEscape else if c = '\'' then .complete else .single
  | .singleEscape, _ => .single
  | .double, c => if c = '\\' then .doubleEscape else if c = '"' then .complete else .double
  | .doubleEscape, _ => .double

/-- The text before a comment, if one begins in the text. A comment begins with a
    number sign after a blank. -/
def beforeComment? : Outlook → List Char → Option (List Char)
  | _, [] => none
  | outlook, c :: cs =>
    if outlook = .blank ∧ c = '#' then some []
    else (beforeComment? (outlook.next c) cs).map (c :: ·)

/-- The text without a line feed at its end, and without a carriage return before
    that. -/
def chomp (cs : List Char) : List Char :=
  match cs.reverse with
  | '\n' :: '\r' :: rest => rest.reverse
  | '\n' :: rest => rest.reverse
  | _ => cs

/-- Joins pieces that end in line feeds into lines, when `begun` has been read of
    the first line. A line that begins with a number sign is empty. -/
def joined : (outlook : Outlook) → (begun : List Char) → List (List Char) → List (List Char)
  | _, _, [] => []
  | outlook, begun, piece :: rest =>
    let line := begun ++ piece
    if startsWith (trimLeft line) ['#'] then [] :: joined .complete [] rest
    else
      match beforeComment? outlook piece with
      | some before => (begun ++ before) :: joined .complete [] rest
      | none =>
        match piece.foldl Outlook.next outlook with
        | .complete => chomp line :: joined .complete [] rest
        | unfinished => joined unfinished line rest

/-- The bytes up to and including each line feed, and those after the last. -/
def pieces : Bytes → List Bytes
  | [] => []
  | b :: rest =>
    if b = 0x0A then [b] :: pieces rest
    else
      match pieces rest with
      | [] => [[b]]
      | piece :: others => (b :: piece) :: others

/-- The texts of byte strings up to the first that is not text. -/
def texts : List Bytes → List (List Char)
  | [] => []
  | piece :: rest =>
    match Utf8.decode? piece with
    | some text => text :: texts rest
    | none => []

/-- The contents without a byte order mark at the beginning. -/
def withoutMark (contents : Bytes) : Bytes :=
  match contents with
  | 0xEF :: 0xBB :: 0xBF :: rest => rest
  | _ => contents

/-- The lines of an environment file up to the first that cannot be read. -/
def lines (contents : Bytes) : List (List Char) :=
  joined .complete [] (texts (pieces (withoutMark contents)))

end SeedGate.EnvFile
