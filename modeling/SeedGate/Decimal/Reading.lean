import SeedGate.Decimal.Binary64
import SeedGate.Text.Blank

/-!
# Numbers in decimal digits

How a text denotes a number in decimal digits: a natural number (`digits?`), or a
fraction with a point or an exponent (`fraction?`), which a sign may precede.
-/

namespace SeedGate.Decimal

open Text

/-- The number that decimal digits denote; nothing if there are none. -/
def digits? (cs : List Char) : Option Nat :=
  if cs.isEmpty || !cs.all isDigit then none
  else some (cs.foldl (fun n c => n * 10 + (c.toNat - '0'.toNat)) 0)

/-- A sign, if there is one, and what follows it; it is negative or not. -/
def signed : List Char → Bool × List Char
  | '-' :: rest => (true, rest)
  | '+' :: rest => (false, rest)
  | cs => (false, cs)

/-- A decimal fraction, with or without a sign and an exponent; there has to be a
    digit before or after the point. -/
def fraction? (cs : List Char) : Option Binary64 :=
  let (negative, rest) := signed cs
  let (whole, rest) := rest.span isDigit
  let (fraction, rest) := match rest with
    | '.' :: rest => rest.span isDigit
    | _ => ([], rest)
  if whole.isEmpty && fraction.isEmpty then none
  else
    let value (e : Int) : Option Binary64 :=
      (digits? (whole ++ fraction)).map fun n => .ofDecimal negative n (e - fraction.length)
    match rest with
    | [] => value 0
    | c :: rest =>
      if c = 'e' ∨ c = 'E' then
        let (down, rest) := signed rest
        (digits? rest).bind fun e => value (if down then -e else e)
      else none

/-- The text denotes a number: a fraction, an infinity or none at all, with or without a
    sign. -/
def isNumber (cs : List Char) : Bool :=
  (fraction? cs).isSome ||
    ["inf", "infinity", "nan"].any fun name => sameIgnoringCase name.toList (signed cs).2

end SeedGate.Decimal
