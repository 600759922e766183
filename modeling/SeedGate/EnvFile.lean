import SeedGate.EnvFile.Assignment
import SeedGate.EnvFile.Line
import SeedGate.Environment
import SeedGate.Text.Quoted

/-!
# Environment files

An environment file assigns values to variables, one assignment after the other
(`EnvFile.load`). A variable that can be read keeps its value, so the first
assignment of a name counts, and only if there was nothing to read before. The
first malformed line ends it all; what was assigned before stays. So does a value
that no variable can have, but that is an `Unsettable` assignment and not passed over
in silence.

A name in a value denotes what the environment has by then, or else what the last
assignment of it above gave it, or else nothing.

None of this is laid down by the program, which leaves its environment file to a package
from elsewhere: the modules of `EnvFile` follow that package.
-/

namespace SeedGate.EnvFile

/-- Values that lines have given to names, the latest first. -/
abbrev Assigned := List (List Char × List Char)

/-- An assignment of a value with a null character in it. -/
structure Unsettable where
  /-- What the variable is called. -/
  name : List Char
  /-- The value. -/
  value : List Char
  deriving DecidableEq, Repr

/-- The assignment in words. -/
def Unsettable.message (u : Unsettable) : String :=
  let shown (cs : List Char) : String := "`" ++ Text.quoted (String.ofList cs) ++ "`"
  "failed to set environment variable " ++ shown u.name ++ " to " ++ shown u.value ++
    ": file name contained an unexpected NUL byte"

/-- What comes of an environment file. -/
structure Loaded where
  /-- The environment afterwards. -/
  environment : Environment
  /-- The assignment that could not be made, if one could not. -/
  unsettable? : Option Unsettable
  deriving DecidableEq, Repr

/-- What a name in a value denotes. -/
def meaning (env : Environment) (assigned : Assigned) (name : List Char) : List Char :=
  match env.search? name with
  | some value => value
  | none => (assigned.lookup name).getD []

/-- The environment with a variable set, unless it can be read already. -/
def provide (env : Environment) (name value : List Char) : Except Unsettable Environment :=
  if (env.read? name).isSome then .ok env
  else if value.contains '\x00' then .error ⟨name, value⟩
  else .ok (env.set name value)

/-- What comes of the given lines. -/
def follow (env : Environment) (assigned : Assigned) : List (List Char) → Loaded
  | [] => ⟨env, none⟩
  | line :: rest =>
    match Line.read (meaning env assigned) line with
    | none => ⟨env, none⟩
    | some .blank => follow env assigned rest
    | some (.assignment name value) =>
      match provide env name value with
      | .error unsettable => ⟨env, some unsettable⟩
      | .ok env => follow env ((name, value) :: assigned) rest

/-- What comes of the assignments of a file. -/
def load (contents : Bytes) (env : Environment) : Loaded := follow env [] (lines contents)

end SeedGate.EnvFile
