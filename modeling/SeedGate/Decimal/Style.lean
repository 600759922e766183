import SeedGate.Decimal.Shortest

/-!
# Written numbers

A floating-point number is written with its shortest decimal, either
positionally or with one digit before the point and an exponent. A `Style` says
which exponents are positional and whether a whole number keeps a point.
-/

namespace SeedGate.Decimal

/-- The choices in writing a floating-point number. -/
structure Style where
  /-- Which of two decimals equally near is taken. -/
  tie : Tie
  /-- The exponents of the leading digit that are written positionally. -/
  isPositional : Int → Bool
  /-- Whole numbers written positionally end in `.0`. -/
  keepsPoint : Bool

/-- The plain style: always positional, whole numbers without a point. -/
def Style.plain : Style := ⟨.up, fun _ => true, false⟩

/-- The style of data: positional from `10 ^ -5` to below `10 ^ 16`, and
    recognisably not a whole number. -/
def Style.data : Style := ⟨.even, fun e => -5 ≤ e && e < 16, true⟩

/-- The digits positionally, for the decimal `d * 10 ^ e`. -/
def positional (keepsPoint : Bool) (d : Nat) (e : Int) : String :=
  let digits := Nat.toDigits 10 d
  if 0 ≤ e then
    String.ofList (digits ++ List.replicate e.toNat '0') ++ (if keepsPoint then ".0" else "")
  else
    let places := (-e).toNat
    let padded := List.replicate (places + 1 - digits.length) '0' ++ digits
    String.ofList (padded.take (padded.length - places)) ++ "." ++
      String.ofList (padded.drop (padded.length - places))

/-- The digits with a signed exponent, for a decimal with the digits `d` whose leading
    digit counts `10 ^ size`. -/
def scientific (d : Nat) (size : Int) : String :=
  let sign := if size < 0 then "-" else "+"
  let mantissa := match Nat.toDigits 10 d with
    | [] => []
    | [c] => [c]
    | c :: rest => c :: '.' :: rest
  String.ofList mantissa ++ "e" ++ sign ++ toString size.natAbs

/-- A floating-point number in words. -/
def Style.write (style : Style) : Binary64 → String
  | .nan => "NaN"
  | .infinite negative => (if negative then "-" else "") ++ "inf"
  | .finite negative m q =>
    let (d, e) := shortest style.tie m q
    let size := e + digitCount d - 1
    (if negative then "-" else "") ++
      if style.isPositional size then positional style.keepsPoint d e else scientific d size

end SeedGate.Decimal
