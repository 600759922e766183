import SeedGate.Decimal.Binary64

/-!
# The fewest digits that read back

The reals that round to a floating-point number form an interval, which includes
its ends if the significand is even. Of the decimals in that interval with the
fewest digits, `shortest` takes the one nearest to the number. It looks at one
grid of decimals after the other, from one digit to seventeen; if a point of a
grid lies in the interval, so does one of the number's two neighbours on that
grid, so only those are tried.
-/

namespace SeedGate.Decimal

/-- Which way to go between two decimals equally near. -/
inductive Tie where
  /-- To the larger one. -/
  | up
  /-- To the one with the even last digit. -/
  | even
  deriving DecidableEq, Repr

/-- How many decimal digits a number has. -/
def digitCount (n : Nat) : Nat := (Nat.toDigits 10 n).length

/-- The largest `e` for which `10 ^ e` does not exceed the positive fraction
    `num / den`. -/
def magnitude (num den : Nat) : Int :=
  if den ≤ num then (digitCount (num / den) : Int) - 1 else -(digitCount ((den - 1) / num) : Int)

/-- The interval of reals that round to `significand * 2 ^ exponent`, in quarters
    of the last binary place: its lower end, the number itself and its upper end. -/
def interval (significand : Nat) (exponent : Int) : Nat × Nat × Nat :=
  let v := 4 * significand
  let gap := if significand = Binary64.leastFull ∧ -1074 < exponent then 1 else 2
  (v - gap, v, v + 2)

/-- The decimal without trailing zeros. -/
def strip : (fuel : Nat) → Nat → Int → Nat × Int
  | 0, d, e => (d, e)
  | fuel + 1, d, e => if d ≠ 0 ∧ d % 10 = 0 then strip fuel (d / 10) (e + 1) else (d, e)

/-- The point of the grid of multiples of `10 ^ k` that lies in the interval and is
    nearest to the number. The number and the ends of the interval are numerators
    over `den`. -/
def onGrid (tie : Tie) (closed : Bool) (low v high den : Nat) (k : Int) : Option Nat :=
  let step := if 0 ≤ k then den * Nat.pow 10 k.toNat else den
  let up (n : Nat) : Nat := if 0 ≤ k then n else n * Nat.pow 10 (-k).toNat
  let (low, v, high) := (up low, up v, up high)
  let below := v / step
  let above := below + 1
  let belowFits := if closed then low ≤ below * step else low < below * step
  let aboveFits := if closed then above * step ≤ high else above * step < high
  let toBelow := v - below * step
  let toAbove := above * step - v
  match decide belowFits, decide aboveFits with
  | false, false => none
  | true, false => some below
  | false, true => some above
  | true, true =>
    if toBelow < toAbove then some below
    else if toAbove < toBelow then some above
    else match tie with
      | .up => some above
      | .even => some (if below % 2 = 0 then below else above)

/-- Tries grids of `digits` digits and more. -/
def search (tie : Tie) (closed : Bool) (low v high den : Nat) (size : Int) :
    (fuel digits : Nat) → Nat × Int
  | 0, _ => (0, 0)
  | fuel + 1, digits =>
    let k := size - digits + 1
    match onGrid tie closed low v high den k with
    | some d => strip 20 d k
    | none => search tie closed low v high den size fuel (digits + 1)

/-- The digits `d` and the exponent `e` of the shortest decimal `d * 10 ^ e` that
    reads back as `significand * 2 ^ exponent`. -/
def shortest (tie : Tie) (significand : Nat) (exponent : Int) : Nat × Int :=
  if significand = 0 then (0, 0)
  else
    let (low, v, high) := interval significand exponent
    let q := exponent - 2
    let (factor, den) := if 0 ≤ q then (Nat.pow 2 q.toNat, 1) else (1, Nat.pow 2 (-q).toNat)
    let v := v * factor
    search tie (significand % 2 == 0) (low * factor) v (high * factor) den (magnitude v den) 18 1

end SeedGate.Decimal
