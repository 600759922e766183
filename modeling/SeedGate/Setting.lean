import SeedGate.Decimal.Style
import SeedGate.Text.Quoted

/-!
# Settings

A `Setting` is a value that someone has set the limit to, in a variable or in a
file. It is a limit only if it is an integer from zero to below `2 ^ 64`
(`Setting.limit`); of sequences and maps nothing is kept but that they are that.
-/

namespace SeedGate

/-- A value that something has been set to. -/
inductive Setting where
  | text (s : List Char)
  | boolean (b : Bool)
  | integer (n : Int)
  | float (x : Binary64)
  | sequence
  | map
  deriving DecidableEq, Repr

namespace Setting

/-- The value in words. -/
def words : Setting → String
  | .text s => "string " ++ Text.quoted (String.ofList s)
  | .boolean b => "bool " ++ toString b
  | .integer n =>
    (if n < 0 then "signed int `" else "unsigned int `") ++ toString n ++ "`"
  | .float x => "float `" ++ Decimal.Style.plain.write x ++ "`"
  | .sequence => "sequence"
  | .map => "map"

/-- How a setting fails to be a limit: it is an integer out of range, or no integer. -/
inductive Misfit where
  | outOfRange (setting : Setting)
  | otherKind (setting : Setting)
  deriving DecidableEq, Repr

/-- The misfit in words. -/
def Misfit.message : Misfit → String
  | .outOfRange s => "invalid value " ++ s.words ++ ", expected usize"
  | .otherKind s => "invalid type: found " ++ s.words ++ ", expected usize"

/-- The limit that a setting denotes. -/
def limit : Setting → Except Misfit Nat
  | .integer n => if 0 ≤ n ∧ n < UInt64.size then .ok n.toNat else .error (.outOfRange (.integer n))
  | other => .error (.otherKind other)

end Setting

end SeedGate
