import SeedGate.Bytes.Hex
import SeedGate.Log.Note

/-!
# Records

A log consists of records: notes of the library, and what a program says of its
own running. Every record can be shown as a line, in which characters that would
drive a terminal are spelled out.

What is said, and at which level, is up to the library and its program. The form of a line
is that of the package that writes the log.
-/

namespace SeedGate.Log

/-- One entry of a log. -/
structure Record where
  /-- How much it matters. -/
  level : Level
  /-- The part of the program it comes from. -/
  topic : String
  /-- What its parts are called: its message, and its details. -/
  fields : List String
  /-- The message, then the details. -/
  text : String
  deriving DecidableEq, Repr

namespace Record

/-- A message without details. -/
def plain (level : Level) (topic text : String) : Record := ⟨level, topic, ["message"], text⟩

/-- The record of a note. -/
def ofNote (note : Note) : Record :=
  ⟨note.level, note.topic, "message" :: note.details, note.text⟩

/-- How a character is written in a line: an escape, a bell, a backspace, a form feed, a
    delete and the controls beyond ASCII by their numbers, and all else as it is. -/
def lineChar (c : Char) : String :=
  let n := c.toNat
  if n = 0x07 ∨ n = 0x08 ∨ n = 0x0C ∨ n = 0x1B ∨ n = 0x7F then
    "\\x" ++ String.ofList (Hex.encode [c.toUInt8])
  else if 0x80 ≤ n ∧ n ≤ 0x9F then "\\u\x7b" ++ Hex.ofNat n ++ "\x7d"
  else c.toString

/-- The record as it is shown. -/
def line (r : Record) : String :=
  r.level.name ++ " " ++ r.topic ++ ": " ++ String.join (r.text.toList.map lineChar)

end Record

end SeedGate.Log
