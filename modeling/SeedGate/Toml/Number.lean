import SeedGate.Bytes.Hex
import SeedGate.Setting
import SeedGate.Text.Blank

/-!
# TOML numbers and dates

A value that begins with a digit or a sign is a date, a time of day, a floating
point number or an integer, told apart by what follows the digits. Digits may be
separated by single underscores. Integers have to fit 64 bits with a sign;
numbers too large for floating point are malformed if they are positive.

Dates and times only have to be possible ones: as settings they are maps.
-/

namespace SeedGate.Toml

open Text

/-! ## Numbers -/

/-- The rest of a run of digits that satisfy `isDigit`, with single underscores
    between them. `owed` says that a digit has to come next. The digits alone are
    returned. -/
def digitsFrom (isDigit : Char → Bool) :
    (owed : Bool) → List Char → Option (List Char × List Char)
  | owed, [] => if owed then none else some ([], [])
  | owed, c :: rest =>
    if isDigit c then (digitsFrom isDigit false rest).map fun (ds, rest) => (c :: ds, rest)
    else if owed then none
    else if c = '_' then digitsFrom isDigit true rest
    else some ([], c :: rest)

/-- A run of digits, one at least, with single underscores between them. -/
def digits (isDigit : Char → Bool) (cs : List Char) : Option (List Char × List Char) :=
  digitsFrom isDigit true cs

/-- The number that digits of the given base denote. -/
def numeral (base : Nat) (digits : List Char) : Nat :=
  digits.foldl (fun n c => n * base + (Hex.value? c).getD 0) 0

/-- The digits of an integer: a zero alone, or digits that begin with none. -/
def whole (cs : List Char) : Option (List Char × List Char) :=
  match cs with
  | '0' :: rest => some (['0'], rest)
  | _ => digits isDigit cs

/-- An integer within the range of 64 bits with a sign. -/
def integer (n : Int) : Option Setting :=
  if -(UInt64.size / 2) ≤ n ∧ n < UInt64.size / 2 then some (.integer n) else none

/-- A sign, if there is one, and what follows it. -/
def sign : List Char → Option Bool × List Char
  | '-' :: rest => (some true, rest)
  | '+' :: rest => (some false, rest)
  | cs => (none, cs)

/-- The exponent after its letter. -/
def exponent (cs : List Char) : Option (Int × List Char) :=
  let (sign?, rest) := sign cs
  (digits isDigit rest).map fun (ds, rest) =>
    let n := numeral 10 ds
    (if sign? = some true then -n else n, rest)

/-- A floating point number, unless it is too large and positive. -/
def float (negative : Bool) (digits : List Char) (e : Int) : Option Setting :=
  let x := Binary64.ofDecimal negative (numeral 10 digits) e
  if x = .infinite false then none else some (.float x)

/-- A point and the digits after it, if there is a point. -/
def fraction (cs : List Char) : Option (Option (List Char) × List Char) :=
  match cs with
  | '.' :: rest => (digits isDigit rest).map fun (ds, rest) => (some ds, rest)
  | _ => some (none, cs)

/-- What a number denotes after its digits, of which some may follow a point: with a
    point or an exponent it is floating point. -/
def scaled (negative : Bool) (ws : List Char) (fraction? : Option (List Char)) (cs : List Char) :
    Option (Setting × List Char) :=
  let fraction := fraction?.getD []
  let raised (rest : List Char) : Option (Setting × List Char) := do
    let (e, rest) ← exponent rest
    return (← float negative (ws ++ fraction) (e - fraction.length), rest)
  match cs with
  | 'e' :: rest => raised rest
  | 'E' :: rest => raised rest
  | _ => do
    if fraction?.isSome then return (← float negative (ws ++ fraction) (-fraction.length), cs)
    else
      let n : Int := numeral 10 ws
      return (← integer (if negative then -n else n), cs)

/-- A decimal number after its sign. -/
def decimal (negative : Bool) (cs : List Char) : Option (Setting × List Char) := do
  let (ws, rest) ← whole cs
  let (fraction?, rest) ← fraction rest
  scaled negative ws fraction? rest

/-- An integer of the given base after its two-letter mark. -/
def based (base : Nat) (cs : List Char) : Option (Setting × List Char) := do
  let isBased (c : Char) : Bool := ((Hex.value? c).getD 16) < base
  let (ds, rest) ← digits isBased cs
  return (← integer (numeral base ds), rest)

/-- A number, with or without a sign. -/
def number (cs : List Char) : Option (Setting × List Char) :=
  let (sign?, rest) := sign cs
  let negative := sign?.getD false
  match sign?, rest with
  | _, 'i' :: 'n' :: 'f' :: rest => some (.float (.infinite negative), rest)
  | _, 'n' :: 'a' :: 'n' :: rest => some (.float .nan, rest)
  | none, '0' :: 'x' :: rest => based 16 rest
  | none, '0' :: 'o' :: rest => based 8 rest
  | none, '0' :: 'b' :: rest => based 2 rest
  | _, _ => decimal negative rest

/-! ## Dates and times -/

/-- A number of exactly `count` digits. -/
def fixed (count : Nat) (cs : List Char) : Option (Nat × List Char) :=
  let ds := cs.take count
  if ds.length = count ∧ ds.all isDigit then some (numeral 10 ds, cs.drop count) else none

/-- The text after the given character. -/
def after (c : Char) : List Char → Option (List Char)
  | d :: rest => if c = d then some rest else none
  | [] => none

/-- How many days a month has. -/
def daysIn (year month : Nat) : Nat :=
  if month = 2 then (if year % 4 = 0 ∧ (year % 100 ≠ 0 ∨ year % 400 = 0) then 29 else 28)
  else if [4, 6, 9, 11].contains month then 30
  else 31

/-- The text after a month and a day of the given year. -/
def monthAndDay (year : Nat) (cs : List Char) : Option (List Char) := do
  let (month, rest) ← fixed 2 cs
  let (day, rest) ← fixed 2 (← after '-' rest)
  if 1 ≤ month ∧ month ≤ 12 ∧ 1 ≤ day ∧ day ≤ daysIn year month then some rest else none

/-- The text after the minutes and seconds of a time of day, which a fraction may
    follow. A minute can have a leap second. -/
def minutesAndSeconds (cs : List Char) : Option (List Char) := do
  let (minute, rest) ← fixed 2 cs
  let (second, rest) ← fixed 2 (← after ':' rest)
  if minute ≤ 59 ∧ second ≤ 60 then
    match rest with
    | '.' :: fraction =>
      if (fraction.takeWhile isDigit).isEmpty then some rest else some (fraction.dropWhile isDigit)
    | _ => some rest
  else none

/-- The text after an hour and a colon, by which a time of day is known. -/
def hour? (cs : List Char) : Option (List Char) := do
  let (hour, rest) ← fixed 2 cs
  if hour ≤ 23 then after ':' rest else none

/-- The text after the distance from universal time, if it is given. -/
def offset (cs : List Char) : Option (List Char) :=
  let distance (rest : List Char) : Option (List Char) := do
    let (minute, rest) ← fixed 2 (← hour? rest)
    if minute ≤ 59 then some rest else none
  match cs with
  | 'Z' :: rest => some rest
  | 'z' :: rest => some rest
  | '+' :: rest => distance rest
  | '-' :: rest => distance rest
  | _ => some cs

/-- The text after the time of day that may follow a date. -/
def timeAfterDate (cs : List Char) : Option (List Char) :=
  match cs with
  | c :: rest =>
    if c = 'T' ∨ c = 't' ∨ c = ' ' then
      match hour? rest with
      | some rest => (minutesAndSeconds rest).bind offset
      | none => some cs
    else some cs
  | [] => some []

/-- A date, a time of day or a number. A year and a dash begin a date, an hour and a
    colon a time of day. -/
def numberOrDate (cs : List Char) : Option (Setting × List Char) :=
  let year? : Option (Nat × List Char) := do
    let (year, rest) ← fixed 4 cs
    return (year, ← after '-' rest)
  match year?, hour? cs with
  | some (year, rest), _ => ((monthAndDay year rest).bind timeAfterDate).map (.map, ·)
  | none, some rest => (minutesAndSeconds rest).map (.map, ·)
  | none, none => number cs

end SeedGate.Toml
