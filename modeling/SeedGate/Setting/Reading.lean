import SeedGate.Bytes.Hex
import SeedGate.Decimal.Reading
import SeedGate.Setting
import SeedGate.Text.Blank
import SeedGate.Text.Cut

/-!
# Settings in variables

The value of a variable is text, but text can denote more: `true` and `false`,
numbers, quoted strings, sequences in brackets and maps in braces. `Setting.ofText`
reads it so, if all of it is one such value, and takes it as plain text otherwise.
So every text denotes something, unless reading it leads to a cut through a character:
of a string with escapes, the text before the first of them is cut after as many bytes
as it has characters.

The program has its variables read by the package that puts its layers together. What
texts denote, and where reading them fails, is that package's doing.
-/

namespace SeedGate.Setting

open Decimal Text

/-- The text after its leading ASCII blanks. -/
def skipBlanks (cs : List Char) : List Char := cs.dropWhile isAsciiBlank

/-- The rest of a text that begins with the given one. -/
def after? (start cs : List Char) : Option (List Char) :=
  if startsWith cs start then some (cs.drop start.length) else none

/-! ## Numbers -/

/-- An integer that 64 bits can hold, with or without a sign. -/
def integer? (cs : List Char) : Option Int :=
  let (negative, rest) := signed cs
  (digits? rest).bind fun n =>
    if negative then (if n ≤ UInt64.size / 2 then some (-n) else none)
    else if n < UInt64.size then some n else none

/-- What unquoted text denotes: a fraction if it has a point and can be read as one,
    an integer, or itself. -/
def ofBare (cs : List Char) : Setting :=
  let number? := if cs.contains '.' then (fraction? cs).map .float else none
  match number? with
  | some s => s
  | none =>
    match integer? cs with
    | some n => .integer n
    | none => .text cs

/-! ## Strings -/

/-- The character whose number is written with the given digits. -/
def scalar? (digits : List Char) : Option Char :=
  (Hex.number? digits).bind fun n => if n.isValidChar then some (Char.ofNat n) else none

/-- A control character other than a tab, which cannot stand between quotes. -/
def isForbidden (c : Char) : Bool := (c.toNat < 0x20 && c != '\t') || c == '\x7f'

/-- The text between quotes, from the first escape in it, the escapes undone. -/
def unescapeFrom : List Char → Option (List Char)
  | [] => some []
  | '\\' :: rest =>
    match rest with
    | '"' :: rest => (unescapeFrom rest).map ('"' :: ·)
    | '\\' :: rest => (unescapeFrom rest).map ('\\' :: ·)
    | 'b' :: rest => (unescapeFrom rest).map ('\x08' :: ·)
    | 'f' :: rest => (unescapeFrom rest).map ('\x0c' :: ·)
    | 'n' :: rest => (unescapeFrom rest).map ('\n' :: ·)
    | 'r' :: rest => (unescapeFrom rest).map ('\r' :: ·)
    | 't' :: rest => (unescapeFrom rest).map ('\t' :: ·)
    | 'u' :: a :: b :: c :: d :: rest => do
      let c ← scalar? [a, b, c, d]
      (unescapeFrom rest).map (c :: ·)
    | 'U' :: a :: b :: c :: d :: e :: f :: g :: h :: rest => do
      let c ← scalar? [a, b, c, d, e, f, g, h]
      (unescapeFrom rest).map (c :: ·)
    | _ => none
  | c :: rest => if isForbidden c then none else (unescapeFrom rest).map (c :: ·)

/-- Why a value could not be read. -/
inductive Unread where
  /-- It is malformed. -/
  | malformed
  /-- A text in it was to be cut in the middle of a character. -/
  | cut (cut : Cut)
  deriving DecidableEq, Repr

/-- A scanned piece, as part of a value. -/
def scanned {α : Type} : Option α → Except Unread α
  | some a => .ok a
  | none => .error .malformed

/-- The text between quotes, its escapes undone. If there are any, what precedes them is
    cut after as many bytes as it has characters. -/
def unescape (cs : List Char) : Except Unread (List Char) := do
  let (before, rest) := cs.span (· != '\\')
  if before.any isForbidden then throw .malformed
  if rest.isEmpty then return before
  let kept ← (takeBytes before.length before).mapError .cut
  return kept ++ (← scanned (unescapeFrom rest))

/-- The text up to the next double quote without a backslash before it, and what
    follows that quote. -/
def upToQuote : List Char → Option (List Char × List Char)
  | [] => none
  | '"' :: rest => some ([], rest)
  | '\\' :: c :: rest => (upToQuote rest).map fun (s, rest) => ('\\' :: c :: s, rest)
  | c :: rest => (upToQuote rest).map fun (s, rest) => (c :: s, rest)

/-- A string after its opening quote. -/
def string (cs : List Char) : Except Unread (List Char × List Char) := do
  let (inside, rest) ← scanned (upToQuote cs)
  return (← unescape inside, rest)

/-! ## Values -/

/-- A character that can stand in an unquoted key. -/
def isKeyChar (c : Char) : Bool := isLetter c || isDigit c || c == '_' || c == '-'

/-- The text after a key and its equals sign. -/
def afterKey (cs : List Char) : Except Unread (List Char) := do
  let cs := skipBlanks cs
  let rest ← match cs with
    | '"' :: rest => (string rest).map (·.2)
    | _ =>
      if (cs.takeWhile isKeyChar).isEmpty then .error .malformed
      else .ok (cs.dropWhile isKeyChar)
  scanned (after? ['='] (skipBlanks rest))

/-- The text after items that commas separate and `close` ends; a comma may stand
    after the last one. `item` passes over an item. -/
def afterItems (close : Char) (item : List Char → Except Unread (List Char)) :
    (fuel : Nat) → List Char → Except Unread (List Char)
  | 0, _ => .error .malformed
  | fuel + 1, cs =>
    if cs.head? = some close then .ok cs.tail
    else do
      match ← item cs with
      | ',' :: rest => afterItems close item fuel rest
      | c :: rest => if c = close then .ok rest else .error .malformed
      | [] => .error .malformed

/-- A character that ends an unquoted value. -/
def endsBare (c : Char) : Bool := [',', '{', '}', '[', ']'].contains c

/-- A value with the blanks around it, and the text after them. Values lie inside
    one another at most as deep as the text is long. -/
def value : (fuel : Nat) → List Char → Except Unread (Setting × List Char)
  | 0, _ => .error .malformed
  | fuel + 1, cs => do
    let cs := skipBlanks cs
    let inner (cs : List Char) : Except Unread (List Char) := (value fuel cs).map (·.2)
    let found : Except Unread (Setting × List Char) :=
      match after? ['t', 'r', 'u', 'e'] cs, after? ['f', 'a', 'l', 's', 'e'] cs, cs with
      | some rest, _, _ => .ok (.boolean true, rest)
      | _, some rest, _ => .ok (.boolean false, rest)
      | _, _, '{' :: rest =>
        (afterItems '}' (fun cs => (afterKey cs).bind inner) rest.length rest).map (.map, ·)
      | _, _, '[' :: rest => (afterItems ']' inner rest.length rest).map (.sequence, ·)
      | _, _, '"' :: rest => (string rest).map fun (s, rest) => (.text s, rest)
      | _, _, '\'' :: rest =>
        match rest with
        | c :: '\'' :: rest => .ok (.text [c], rest)
        | _ => .error .malformed
      | _, _, _ =>
        let (bare, rest) := cs.span fun c => !endsBare c
        .ok (ofBare (trim bare), rest)
    let (s, rest) ← found
    return (s, skipBlanks rest)

/-- What a text denotes: one value, or itself. -/
def ofText (cs : List Char) : Except Cut Setting :=
  match value (cs.length + 1) cs with
  | .ok (s, []) => .ok s
  | .ok _ => .ok (.text cs)
  | .error .malformed => .ok (.text cs)
  | .error (.cut cut) => .error cut

end SeedGate.Setting
