import SeedGate.Text.Utf8

/-!
# Control sequences

Text for a terminal holds control sequences besides what is to be read: an escape,
then characters that say what it does and where it ends. `visible` leaves the
sequences out and keeps what a terminal would show: printing characters, and the
blanks of ASCII, also those in the middle of a sequence.

A blank in the middle of a sequence makes what follows it show too. The sequence
goes on at the next byte that does not show, unless a character beyond ASCII has
ended it before.
-/

namespace SeedGate.Text

/-- What a terminal is in the middle of. -/
inductive Control where
  /-- Text. -/
  | text
  /-- An escape, and one with intermediate bytes after it. -/
  | escape
  | escapeMiddle
  /-- A control sequence with its parameters. -/
  | sequence
  /-- The beginning of a string for the device: before its parameters, among them, and
      after them. -/
  | device
  | deviceParameters
  | deviceMiddle
  /-- A string, of any kind but the next. -/
  | string
  /-- A command for the system, which a bell ends. -/
  | command
  deriving DecidableEq, Repr

namespace Control

/-- A byte from `low` to `high`. -/
def isWithin (low high b : UInt8) : Bool := low ≤ b && b ≤ high

/-- What the terminal is in the middle of after another byte. -/
def next (control : Control) (b : UInt8) : Control :=
  if b = 0x1B then .escape
  else if b = 0x18 ∨ b = 0x1A then .text
  else
    match control with
    | .text => .text
    | .escape =>
      if b = 0x5B then .sequence
      else if b = 0x5D then .command
      else if b = 0x50 then .device
      else if b = 0x58 ∨ b = 0x5E ∨ b = 0x5F then .string
      else if isWithin 0x20 0x2F b then .escapeMiddle
      else if isWithin 0x30 0x7E b then .text
      else .escape
    | .escapeMiddle => if isWithin 0x30 0x7E b then .text else .escapeMiddle
    | .sequence => if isWithin 0x40 0x7E b then .text else .sequence
    | .device =>
      if isWithin 0x20 0x2F b then .deviceMiddle
      else if isWithin 0x30 0x3F b then .deviceParameters
      else if isWithin 0x40 0x7E b then .string
      else .device
    | .deviceParameters =>
      if isWithin 0x20 0x2F b then .deviceMiddle
      else if isWithin 0x3C 0x7E b then .string
      else .deviceParameters
    | .deviceMiddle => if isWithin 0x30 0x7E b then .string else .deviceMiddle
    | .string => if b = 0x9C then .text else .string
    | .command => if b = 0x07 then .text else .command

/-- A blank of ASCII shows in the middle of these. -/
def showsBlanks : Control → Bool
  | .text | .escape | .escapeMiddle | .sequence => true
  | _ => false

/-- A byte of ASCII shows. -/
def shows (control : Control) (b : UInt8) : Bool :=
  if b = 0x09 ∨ b = 0x0A ∨ b = 0x0C ∨ b = 0x0D then control.showsBlanks
  else control = .text && isWithin 0x20 0x7E b

/-- How many bytes follow the first of a character beyond ASCII; none if the byte is
    no such first byte. -/
def following (b : UInt8) : Nat :=
  if isWithin 0xC2 0xDF b then 1
  else if isWithin 0xE0 0xEF b then 2
  else if isWithin 0xF0 0xF4 b then 3
  else 0

end Control

/-- The bytes that show, when the terminal is in the middle of something. In a stretch
    that shows, `showing` is set, and bytes count as they do in text; `owed` bytes of a
    character are still to come. -/
def visibleFrom : (control : Control) → (showing : Bool) → (owed : Nat) → Bytes → Bytes
  | _, _, _, [] => []
  | control, showing, owed + 1, b :: rest => b :: visibleFrom control showing owed rest
  | control, showing, 0, b :: rest =>
    let current := if showing then .text else control
    if current = .text ∧ 0 < Control.following b then
      b :: visibleFrom .text true (Control.following b) rest
    else if current.shows b then b :: visibleFrom control true 0 rest
    else visibleFrom (control.next b) false 0 rest

/-- The text that a terminal shows. -/
def visible (cs : List Char) : List Char :=
  Utf8.lossy (visibleFrom .text false 0 (Utf8.encode cs))

end SeedGate.Text
