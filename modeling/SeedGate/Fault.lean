import SeedGate.Text.Quoted

/-!
# Faults

A request for random bytes is refused because it is too large, or fails because
the source of entropy could not produce them; a configuration can be out of
range. Each `Fault` has one `message` for people and one `debugText`, which shows
how it is built and quotes its text.
-/

namespace SeedGate

/-- Why a request, or the building of a generator, did not succeed. -/
inductive Fault where
  /-- More bytes were asked for than the generator accepts. -/
  | tooLarge (requested limit : Nat)
  /-- The source of entropy could not produce the bytes, for the given reason. -/
  | generation (reason : String)
  /-- The configuration was rejected, for the given reason. -/
  | configuration (reason : String)
  deriving DecidableEq, Repr

namespace Fault

/-- The sentence that reports the fault. -/
def message : Fault → String
  | .tooLarge requested limit => s!"Requested {requested} bytes, maximum is {limit}"
  | .generation reason => "Random generation failed: " ++ reason
  | .configuration reason => "Invalid configuration: " ++ reason

/-- The fault as it is built, its text quoted. -/
def debugText : Fault → String
  | .tooLarge requested limit =>
    s!"RequestTooLarge \x7b requested: {requested}, max: {limit} \x7d"
  | .generation reason => "Generation(" ++ Text.quoted reason ++ ")"
  | .configuration reason => "InvalidConfig(" ++ Text.quoted reason ++ ")"

end Fault

end SeedGate
