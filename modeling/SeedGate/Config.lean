import SeedGate.Fault

/-!
# Configuration

The one thing to configure is the size of the largest request. It is valid up
to the largest signed 32-bit number, which is also what it is by default.
-/

namespace SeedGate

/-- The largest signed 32-bit number. -/
def platformMax : Nat := 2147483647

/-- The configuration of a generator. -/
structure Config where
  /-- The largest request, in bytes, that the generator accepts. -/
  maxRequestLen : Nat
  deriving DecidableEq, Repr

namespace Config

/-- Requests up to the largest signed 32-bit number. -/
def standard : Config := ⟨platformMax⟩

instance : Inhabited Config := ⟨standard⟩

/-- Rejects a limit above the largest signed 32-bit number. -/
def validate (c : Config) : Except Fault Unit :=
  if platformMax < c.maxRequestLen then
    .error (.configuration
      s!"max_request_len {c.maxRequestLen} exceeds platform limit {platformMax}")
  else .ok ()

/-- Valid is what is no larger than the largest signed 32-bit number. -/
theorem validate_eq_ok_iff {c : Config} : c.validate = .ok () ↔ c.maxRequestLen ≤ platformMax := by
  rw [validate]
  split <;> simp <;> omega

/-- The configuration in diagnostics. -/
def describe (c : Config) : String :=
  "RandomConfig \x7b max_request_len: " ++ toString c.maxRequestLen ++ " \x7d"

/-- The configuration as JSON text. -/
def toJson (c : Config) : String :=
  "\x7b\"max_request_len\":" ++ toString c.maxRequestLen ++ "\x7d"

end Config

end SeedGate
