import SeedGate.Bytes.Hex
import SeedGate.Decimal.Binary64
import SeedGate.Text.Blank

/-!
# Scanning JSON

The pieces of JSON text: blanks, the three words, numbers, strings, and whole
values to be passed over (`skip`). Each scanner takes the text that begins with
the piece and returns what it denotes with the rest of the text, or nothing if
the text is malformed there.

A number is a natural number, a negative one, or floating point: whatever has a
point or an exponent, minus zero, and integers that 64 bits cannot hold. Its
significant digits are gathered into 64 bits; digits that no longer fit only
move the point. The value is that significand times or divided by powers of
ten, each step rounded, and a number beyond the range is malformed.

The scanners follow a package from elsewhere, by which whoever uses the library reads its
configurations. The library itself only says of what a configuration consists.
-/

namespace SeedGate.Json

open Text

/-- The four blanks of JSON. -/
def isBlank (c : Char) : Bool := c == ' ' || c == '\n' || c == '\t' || c == '\r'

/-- The text after its leading blanks. -/
def skipBlanks (cs : List Char) : List Char := cs.dropWhile isBlank

/-- The rest of a text that begins with the given word. -/
def word (expected : List Char) (cs : List Char) : Option (List Char) :=
  if startsWith cs expected then some (cs.drop expected.length) else none

/-! ## Strings -/

/-- A unit of a string: a character, or one written as a number, which can be half
    of a surrogate pair. -/
inductive StringUnit where
  | char (c : Char)
  | code (n : Nat)
  deriving DecidableEq, Repr

/-- The character that a short escape stands for. -/
def escape? : Char → Option Char
  | '"' => some '"'
  | '\\' => some '\\'
  | '/' => some '/'
  | 'b' => some '\x08'
  | 'f' => some '\x0c'
  | 'n' => some '\n'
  | 'r' => some '\r'
  | 't' => some '\t'
  | _ => none

/-- The units of a string up to its closing quote. -/
def units : List Char → Option (List StringUnit × List Char)
  | [] => none
  | '"' :: rest => some ([], rest)
  | '\\' :: 'u' :: a :: b :: c :: d :: rest => do
    let n ← Hex.number? [a, b, c, d]
    let (us, rest) ← units rest
    return (.code n :: us, rest)
  | '\\' :: c :: rest => do
    let e ← escape? c
    let (us, rest) ← units rest
    return (.char e :: us, rest)
  | c :: rest =>
    if c.toNat < 0x20 then none
    else do
      let (us, rest) ← units rest
      return (.char c :: us, rest)

/-- The characters of units; surrogates have to come in pairs. -/
def characters : List StringUnit → Option (List Char)
  | [] => some []
  | .char c :: us => (characters us).map (c :: ·)
  | .code n :: us =>
    if n < 0xD800 ∨ 0xDFFF < n then (characters us).map (Char.ofNat n :: ·)
    else
      match us with
      | .code m :: rest =>
        if n < 0xDC00 ∧ 0xDC00 ≤ m ∧ m ≤ 0xDFFF then
          (characters rest).map
            (Char.ofNat (0x10000 + (n - 0xD800) * 0x400 + (m - 0xDC00)) :: ·)
        else none
      | _ => none

/-- A string after its opening quote. -/
def string (cs : List Char) : Option (List Char × List Char) := do
  let (us, rest) ← units cs
  let text ← characters us
  return (text, rest)

/-! ## Numbers -/

/-- What a number denotes. -/
inductive Number where
  /-- A natural number below `2 ^ 64`. -/
  | natural (n : Nat)
  /-- The number `-n`, with `n` from one to `2 ^ 63`. -/
  | negative (n : Nat)
  /-- Any other number. -/
  | float (x : Binary64)
  deriving DecidableEq, Repr

/-- The value of a digit. -/
def digitValue (c : Char) : Nat := c.toNat - '0'.toNat

/-- Gathers digits into 64 bits: the significand and the digits that no longer fit. -/
def gather (significand : Nat) : List Char → Nat × List Char
  | [] => (significand, [])
  | c :: cs =>
    let longer := significand * 10 + digitValue c
    if longer < UInt64.size then gather longer cs else (significand, c :: cs)

/-- Divides by `10 ^ 308` as often as it takes to bring an exponent of `-e` within
    reach; after four times nothing is left of any significand. -/
def scaleDown (x : Binary64) (e : Nat) : Binary64 × Nat :=
  let times := (e - 1) / 308
  (iterate (fun y => y.div (.ofDecimal false 1 308)) (min times 4) x, e - times * 308)
where
  /-- The `n`-fold application of a function. -/
  iterate (f : Binary64 → Binary64) : Nat → Binary64 → Binary64
    | 0, y => y
    | n + 1, y => iterate f n (f y)

/-- A significand times a power of ten, as floating point; nothing if it is too large. -/
def assemble (negative : Bool) (significand : Nat) (e : Int) : Option Binary64 :=
  let x := Binary64.ofNat significand
  let magnitude :=
    if 0 ≤ e then
      if e ≤ 308 then
        let y := x.mul (.ofDecimal false 1 e)
        if y.isInfinite then none else some y
      else if x.isZero then some x
      else none
    else
      let (y, e) := scaleDown x (-e).toNat
      some (y.div (.ofDecimal false 1 e))
  magnitude.map fun y => if negative then y.negate else y

/-- An exponent after its `e`: its sign and its digits. -/
def exponent (cs : List Char) : Option ((Bool × List Char) × List Char) :=
  let (negative, cs) := match cs with
    | '+' :: rest => (false, rest)
    | '-' :: rest => (true, rest)
    | _ => (false, cs)
  let (digits, rest) := cs.span isDigit
  if digits.isEmpty then none else some ((negative, digits), rest)

/-- A point and the digits after it, if there is a point. -/
def fraction (cs : List Char) : Option (Option (List Char) × List Char) :=
  match cs with
  | '.' :: rest =>
    let (digits, rest) := rest.span isDigit
    if digits.isEmpty then none else some (some digits, rest)
  | _ => some (none, cs)

/-- An `e` and the exponent after it, if there is an `e`. -/
def scale (cs : List Char) : Option (Option (Bool × List Char) × List Char) :=
  match cs with
  | 'e' :: rest | 'E' :: rest => (exponent rest).map fun (e, rest) => (some e, rest)
  | _ => some (none, cs)

/-- The parts of a number: the digits before the point, those after it if there is
    one, and the exponent if there is one. -/
structure Parts where
  whole : List Char
  fraction? : Option (List Char)
  exponent? : Option (Bool × List Char)
  deriving DecidableEq, Repr

/-- A number after its sign, in parts. -/
def parts (cs : List Char) : Option (Parts × List Char) := do
  let (whole, rest) := cs.span isDigit
  match whole with
  | [] => none
  | '0' :: _ :: _ => none
  | _ =>
    let (fraction?, rest) ← fraction rest
    let (exponent?, rest) ← scale rest
    return (⟨whole, fraction?, exponent?⟩, rest)

/-- What the parts of a number denote. -/
def Parts.value (negative : Bool) (p : Parts) : Option Number :=
  let (significand, left) := gather 0 p.whole
  match p.fraction?, p.exponent? with
  | none, none =>
    if left.isEmpty then
      if negative then
        if significand = 0 ∨ UInt64.size / 2 < significand then
          some (.float (Binary64.ofNat significand).negate)
        else some (.negative significand)
      else some (.natural significand)
    else (assemble negative significand left.length).map .float
  | _, _ =>
    let fraction := p.fraction?.getD []
    let (longer, dropped) := gather significand fraction
    let shift : Int := left.length - (fraction.length - dropped.length : Nat)
    match p.exponent? with
    | none => (assemble negative longer shift).map .float
    | some (down, digits) =>
      let e := digits.foldl (fun n c => n * 10 + digitValue c) 0
      if e < UInt32.size / 2 then
        (assemble negative longer (if down then shift - e else shift + e)).map .float
      else if longer ≠ 0 ∧ !down then none
      else some (.float (.finite negative 0 (-1074)))

/-- A number after its sign. -/
def number (negative : Bool) (cs : List Char) : Option (Number × List Char) := do
  let (p, rest) ← parts cs
  let n ← p.value negative
  return (n, rest)

/-! ## Values to be passed over -/

/-- What is open around a value. -/
inductive Bracket where
  | array
  | object
  deriving DecidableEq, Repr

/-- A name and the colon after it, for a member that is passed over. -/
def skipName (cs : List Char) : Option (List Char) :=
  match skipBlanks cs with
  | '"' :: rest => do
    let (_, rest) ← units rest
    match skipBlanks rest with
    | ':' :: rest => some rest
    | _ => none
  | _ => none

/-- Passes over a value inside open brackets, the innermost first, and over what
    follows until all of them are closed. Every round consumes a character, so as
    many rounds as there are characters suffice. -/
def skipWithin : (fuel : Nat) → List Bracket → List Char → Option (List Char)
  | 0, _, _ => none
  | fuel + 1, around, cs =>
    match skipBlanks cs with
    | 'n' :: rest => (word ['u', 'l', 'l'] rest).bind (close fuel around)
    | 't' :: rest => (word ['r', 'u', 'e'] rest).bind (close fuel around)
    | 'f' :: rest => (word ['a', 'l', 's', 'e'] rest).bind (close fuel around)
    | '"' :: rest => (units rest).bind fun (_, rest) => close fuel around rest
    | '-' :: rest => (parts rest).bind fun (_, rest) => close fuel around rest
    | '[' :: rest =>
      match skipBlanks rest with
      | ']' :: rest => close fuel around rest
      | _ => skipWithin fuel (.array :: around) rest
    | '{' :: rest =>
      match skipBlanks rest with
      | '}' :: rest => close fuel around rest
      | _ => (skipName rest).bind (skipWithin fuel (.object :: around))
    | c :: rest =>
      if isDigit c then (parts (c :: rest)).bind fun (_, rest) => close fuel around rest else none
    | [] => none
where
  /-- Goes on after a value. -/
  close : (fuel : Nat) → List Bracket → List Char → Option (List Char)
  | _, [], cs => some cs
  | 0, _, _ => none
  | fuel + 1, bracket :: around, cs =>
    match bracket, skipBlanks cs with
    | .array, ',' :: rest => skipWithin fuel (.array :: around) rest
    | .object, ',' :: rest => (skipName rest).bind (skipWithin fuel (.object :: around))
    | .array, ']' :: rest => close fuel around rest
    | .object, '}' :: rest => close fuel around rest
    | _, _ => none

/-- Passes over a value. -/
def skip (cs : List Char) : Option (List Char) := skipWithin (2 * cs.length + 1) [] cs

end SeedGate.Json
