import SeedGate.Config
import SeedGate.Decimal.Style
import SeedGate.Json.Scan
import SeedGate.Text.Quoted

/-!
# Configurations in JSON

A configuration is read from JSON text in one pass: from an object with exactly
one member `max_request_len`, others being passed over, or from an array of one
element. The first thing wrong decides what is reported: text that is malformed
at some place, or a `Mismatch`, well-formed text that does not fit.

The library declares what a configuration consists of and has its reader derived from that.
So all else here, the wording of mismatches included, follows packages from elsewhere.
-/

namespace SeedGate.Config

open Json

/-- A kind of value that stands where another is expected. -/
inductive Found where
  | null
  | boolean (b : Bool)
  | natural (n : Nat)
  | negative (n : Nat)
  | float (x : Binary64)
  | string (s : List Char)
  | sequence
  | map
  deriving DecidableEq, Repr

/-- The value in words. -/
def Found.words : Found → String
  | .null => "null"
  | .boolean b => "boolean `" ++ toString b ++ "`"
  | .natural n => "integer `" ++ toString n ++ "`"
  | .negative n => "integer `-" ++ toString n ++ "`"
  | .float x => "floating point `" ++ Decimal.Style.data.write x ++ "`"
  | .string s => "string " ++ Text.quoted (String.ofList s)
  | .sequence => "sequence"
  | .map => "map"

/-- The value of a number. -/
def Found.ofNumber : Json.Number → Found
  | .natural n => .natural n
  | .negative n => .negative n
  | .float x => .float x

/-- How well-formed text can fail to be a configuration. -/
inductive Mismatch where
  /-- The text is neither an object nor an array. -/
  | notConfig (found : Found)
  /-- The array is empty. -/
  | noElement
  /-- The object does not have the member. -/
  | missing
  /-- The object has the member twice. -/
  | duplicate
  /-- The limit is not a natural number. -/
  | notLimit (found : Found)
  deriving DecidableEq, Repr

/-- The mismatch in words. -/
def Mismatch.message : Mismatch → String
  | .notConfig found => "invalid type: " ++ found.words ++ ", expected struct RandomConfig"
  | .noElement => "invalid length 0, expected struct RandomConfig with 1 element"
  | .missing => "missing field `max_request_len`"
  | .duplicate => "duplicate field `max_request_len`"
  | .notLimit (.negative n) =>
    "invalid value: " ++ (Found.negative n).words ++ ", expected usize"
  | .notLimit found => "invalid type: " ++ found.words ++ ", expected usize"

/-- Why a text is not a configuration. -/
inductive Unreadable where
  /-- It is not JSON, or goes on after the configuration. -/
  | malformed
  /-- It is JSON of something else. -/
  | mismatch (mismatch : Mismatch)
  deriving DecidableEq, Repr

/-- A scanned piece, as part of a configuration. -/
def scanned {α : Type} : Option α → Except Unreadable α
  | some a => .ok a
  | none => .error .malformed

/-- The value at the beginning of a text, as far as it has to be read to tell what
    it is: an array or an object up to its bracket, anything else whole. -/
def found (cs : List Char) : Except Unreadable (Found × List Char) :=
  match skipBlanks cs with
  | 'n' :: rest => (scanned (word ['u', 'l', 'l'] rest)).map (.null, ·)
  | 't' :: rest => (scanned (word ['r', 'u', 'e'] rest)).map (.boolean true, ·)
  | 'f' :: rest => (scanned (word ['a', 'l', 's', 'e'] rest)).map (.boolean false, ·)
  | '"' :: rest => (scanned (string rest)).map fun (s, rest) => (.string s, rest)
  | '[' :: rest => .ok (.sequence, rest)
  | '{' :: rest => .ok (.map, rest)
  | '-' :: rest =>
    (scanned (number true rest)).map fun (n, rest) => (.ofNumber n, rest)
  | c :: rest =>
    if Text.isDigit c then
      (scanned (number false (c :: rest))).map fun (n, rest) => (.ofNumber n, rest)
    else .error .malformed
  | [] => .error .malformed

/-- The limit. -/
def readLimit (cs : List Char) : Except Unreadable (Nat × List Char) := do
  match ← found cs with
  | (.natural n, rest) => .ok (n, rest)
  | (other, _) => .error (.mismatch (.notLimit other))

/-- The only element of an array, and the bracket that closes it. -/
def readElement (cs : List Char) : Except Unreadable (Nat × List Char) :=
  match skipBlanks cs with
  | ']' :: _ => .error (.mismatch .noElement)
  | cs => do
    let (n, rest) ← readLimit cs
    match skipBlanks rest with
    | ']' :: rest => .ok (n, rest)
    | _ => .error .malformed

/-- The name of the member that holds the limit. -/
def limitName : List Char := "max_request_len".toList

/-- A member of an object, with the limit as far as it is known. -/
def readMember (limit? : Option Nat) (cs : List Char) :
    Except Unreadable (Option Nat × List Char) := do
  match cs with
  | '"' :: rest =>
    let (name, rest) ← scanned (string rest)
    if name = limitName then
      if limit?.isSome then throw (.mismatch .duplicate)
      let (n, rest) ← colon rest >>= readLimit
      return (some n, rest)
    else
      let rest ← colon rest >>= fun rest => scanned (skip rest)
      return (limit?, rest)
  | _ => .error .malformed
where
  /-- The text after a colon. -/
  colon (cs : List Char) : Except Unreadable (List Char) :=
    match skipBlanks cs with
    | ':' :: rest => .ok rest
    | _ => .error .malformed

/-- Members of an object and the brace that closes it, the first member being the
    next thing in the text. Every member is at least one character long, so as
    many rounds as there are characters suffice. -/
def readMembers : (fuel : Nat) → (limit? : Option Nat) → List Char →
    Except Unreadable (Option Nat × List Char)
  | 0, _, _ => .error .malformed
  | fuel + 1, limit?, cs => do
    let (limit?, rest) ← readMember limit? cs
    match skipBlanks rest with
    | ',' :: rest => readMembers fuel limit? (skipBlanks rest)
    | '}' :: rest => .ok (limit?, rest)
    | _ => .error .malformed

/-- The members of an object after its opening brace. -/
def readObject (cs : List Char) : Except Unreadable (Nat × List Char) := do
  let (limit?, rest) ← match skipBlanks cs with
    | '}' :: rest => .ok (none, rest)
    | cs => readMembers (cs.length + 1) none cs
  match limit? with
  | some n => .ok (n, rest)
  | none => .error (.mismatch .missing)

/-- Reads a configuration from JSON text. -/
def ofJson (text : List Char) : Except Unreadable Config := do
  let (n, rest) ← match ← found text with
    | (.sequence, rest) => readElement rest
    | (.map, rest) => readObject rest
    | (other, _) => .error (.mismatch (.notConfig other))
  match skipBlanks rest with
  | [] => .ok ⟨n⟩
  | _ => .error .malformed

end SeedGate.Config
