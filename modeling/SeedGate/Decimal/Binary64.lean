/-!
# Binary floating point, exactly

A `Binary64` is a number as 64-bit floating point holds it: a sign and a
magnitude of at most 53 significant bits times a power of two, an infinity, or
not a number. Nothing here is approximate but `ofRatio`, which takes the nearest
such number to a fraction and an even significand of two equally near ones;
`ofDecimal`, `add`, `mul` and `div` round once, through it.
-/

namespace SeedGate

/-- A 64-bit floating-point number. -/
inductive Binary64 where
  /-- The number `± significand * 2 ^ exponent`, the significand below `2 ^ 53` and the
      exponent at least `-1074`. -/
  | finite (negative : Bool) (significand : Nat) (exponent : Int)
  /-- An infinity. -/
  | infinite (negative : Bool)
  /-- Not a number. -/
  | nan
  deriving DecidableEq, Repr

namespace Binary64

/-- The least significand of 53 bits, `2 ^ 52`. -/
def leastFull : Nat := 4503599627370496

/-- The quotient rounded to the nearest number, to an even one of two. -/
def roundDiv (num den : Nat) : Nat :=
  let q := num / den
  let twice := 2 * (num % den)
  if twice < den then q else if den < twice then q + 1 else q + q % 2

/-- The fraction `num / den` divided by `2 ^ e`. -/
def scale (num den : Nat) (e : Int) : Nat × Nat :=
  if 0 ≤ e then (num, den * Nat.pow 2 e.toNat) else (num * Nat.pow 2 (-e).toNat, den)

/-- The number nearest to a fraction. The exponent is the one that leaves the
    significand 53 bits, or the least there is. -/
def ofRatio (negative : Bool) (num den : Nat) : Binary64 :=
  if num = 0 then .finite negative 0 (-1074)
  else
    let estimate : Int := (num.log2 : Int) - den.log2 - 52
    let (n, d) := scale num den estimate
    let exact := if n < d * leastFull then estimate - 1 else estimate
    let e := max exact (-1074)
    let (n, d) := scale num den e
    let m := roundDiv n d
    let (m, e) := if m = 2 * leastFull then (leastFull, e + 1) else (m, e)
    if 971 < e then .infinite negative else .finite negative m e

/-- The number nearest to `digits * 10 ^ e`. Exponents out of all proportion are
    settled without computing the power. -/
def ofDecimal (negative : Bool) (digits : Nat) (e : Int) : Binary64 :=
  let size : Int := (Nat.toDigits 10 digits).length + e
  if digits = 0 ∨ size < -400 then .finite negative 0 (-1074)
  else if 400 < size then .infinite negative
  else if 0 ≤ e then ofRatio negative (digits * Nat.pow 10 e.toNat) 1
  else ofRatio negative digits (Nat.pow 10 (-e).toNat)

/-- The number nearest to a natural number. -/
def ofNat (n : Nat) : Binary64 := ofRatio false n 1

/-- The negated number. -/
def negate : Binary64 → Binary64
  | .finite negative m e => .finite (!negative) m e
  | .infinite negative => .infinite (!negative)
  | .nan => .nan

/-- The magnitude `m * 2 ^ e` as a fraction. -/
def ratio (m : Nat) (e : Int) : Nat × Nat :=
  if 0 ≤ e then (m * Nat.pow 2 e.toNat, 1) else (m, Nat.pow 2 (-e).toNat)

/-- The number `± m * 2 ^ e` counted in units of `2 ^ unit`, the unit being at most `e`. -/
def count (unit : Int) (negative : Bool) (m : Nat) (e : Int) : Int :=
  let n : Int := m * Nat.pow 2 (e - unit).toNat
  if negative then -n else n

/-- The sum of two finite numbers, rounded; anything else is none. -/
def add : Binary64 → Binary64 → Binary64
  | .finite s m e, .finite t n f =>
    let unit := min e f
    let sum := count unit s m e + count unit t n f
    let (p, q) := ratio sum.natAbs unit
    ofRatio (sum < 0) p q
  | _, _ => .nan

/-- The product of two finite numbers, rounded; anything else is none. -/
def mul : Binary64 → Binary64 → Binary64
  | .finite s m e, .finite t n f =>
    let (p, q) := ratio (m * n) (e + f)
    ofRatio (s != t) p q
  | _, _ => .nan

/-- The quotient of two finite numbers, rounded; anything else is none. -/
def div : Binary64 → Binary64 → Binary64
  | .finite s m e, .finite t n f =>
    if n = 0 then .nan
    else
      let (p, q) := ratio m e
      let (p', q') := ratio n f
      ofRatio (s != t) (p * q') (q * p')
  | _, _ => .nan

/-- One finite number is less than another. -/
def isLess : Binary64 → Binary64 → Bool
  | .finite s m e, .finite t n f => count (min e f) s m e < count (min e f) t n f
  | _, _ => false

/-- The number is zero, of either sign. -/
def isZero : Binary64 → Bool
  | .finite _ m _ => m == 0
  | _ => false

/-- The number is an infinity. -/
def isInfinite : Binary64 → Bool
  | .infinite _ => true
  | _ => false

end Binary64

end SeedGate
