import SeedGate.CommandLine.Run

/-!
# The program `randbytes`

The outer layer: it gathers what a run depends on, hands it to `CommandLine.run` and
puts out what comes of it. Of the files it reads those that a configuration can come
from, in the working directory and around it; of the entropy of the system as many
bytes as the run can use.
-/

namespace SeedGate.Main

/-- The bytes of a file, if it can be read. -/
def contents? (path : List Char) : IO (Option Bytes) := do
  try
    let bytes ← IO.FS.readBinFile (String.ofList path)
    return some bytes.toList
  catch _ => return none

/-- The files that a path can mean in a directory. -/
def candidates (directory : Place) (path : List Char) : IO (List (Place × FileTree.Node)) := do
  let paths := if Path.isAbsolute path then [path] else directory.outward.map (·.append path)
  paths.filterMapM fun path => do
    return (← contents? path).map fun bytes => (Path.components path, .file bytes)

/-- The environment of the process. -/
def environment : IO Environment := do
  let listed := (← contents? "/proc/self/environ".toList).getD []
  let entries := listed.splitBy fun a _ => a != 0
  return entries.map fun entry =>
    let entry := entry.filter (· != 0)
    let name := entry.takeWhile (· != 0x3D)
    ⟨Utf8.lossy name, .ofBytes (entry.drop (name.length + 1))⟩

/-- The working directory. -/
def directory : IO Place := do
  return Path.components (← IO.currentDir).toString.toList

/-- Enough bytes from the system for a probe and a draw of the given length. -/
def entropy (length : Nat) : IO ByteArray :=
  if length ≤ platformMax then IO.getRandomBytes (USize.ofNat (length + 1))
  else return ByteArray.empty

/-- Gathers what a run with the given arguments depends on. -/
def invocation (arguments : List String) : IO CommandLine.Invocation := do
  let arguments := arguments.map fun argument => argument.toUTF8.toList
  let environment ← environment
  let directory ← directory
  let envFiles ← candidates directory Config.Load.envFileName
  let prepared := Config.Load.prepared ⟨envFiles⟩ directory environment
  let path := (prepared.environment.read? Config.Load.pathVariable).getD Config.Load.standardPath
  let files : FileTree :=
    ⟨(directory, .directory) :: envFiles ++ (← candidates directory path)⟩
  let length := match CommandLine.Options.read arguments environment with
    | .ok options => options.length
    | .error _ => 0
  let bytes ← entropy length
  return { arguments, environment, files, directory, stream := fun i => (bytes.data[i]?).getD 0,
           outcomes := [], outputFull := false }

/-- Writes bytes out, and tells whether that succeeded. -/
def write (bytes : Bytes) : IO Bool := do
  try
    let out ← IO.getStdout
    out.write ⟨bytes.toArray⟩
    out.flush
    return true
  catch _ => return false

end SeedGate.Main

/-- Runs the program. If the output cannot be written, what comes of the run is what
    comes of it when nothing can. -/
def main (arguments : List String) : IO UInt32 := do
  let invocation ← SeedGate.Main.invocation arguments
  let outcome := SeedGate.CommandLine.run invocation
  let outcome ←
    if ← SeedGate.Main.write outcome.output then pure outcome
    else pure (SeedGate.CommandLine.run { invocation with outputFull := true })
  for line in outcome.messages do
    IO.eprintln line
  return UInt32.ofNat outcome.exit
