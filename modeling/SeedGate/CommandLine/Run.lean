import SeedGate.CommandLine.Usage
import SeedGate.Config.Load
import SeedGate.Generator
import SeedGate.Log.Filter
import SeedGate.Source.SystemEntropy

/-!
# Running `randbytes`

The program reads its options, loads a configuration, has a generator over the
entropy of the operating system deliver as many bytes as asked for, and writes them
out, as hexadecimal digits and a line feed or as they are (`run`).

A configuration that cannot be loaded is reported and replaced by the standard one,
unless loading gives up for good; that, and whatever else goes wrong, is reported and
ends the program without output. Reports and the notes of the generator go through the
filter of the variable `RUST_LOG`. What comes of a run (`Outcome`) is all this, and the
attempts at drawing from the kernel that were made on the way.
-/

namespace SeedGate.CommandLine

/-- Everything that a run depends on. -/
structure Invocation where
  /-- The arguments, without the name of the program. -/
  arguments : List Bytes
  /-- The environment. -/
  environment : Environment
  /-- The files there are. -/
  files : FileTree
  /-- The working directory. -/
  directory : Place
  /-- The bytes that the kernel delivers. -/
  stream : Nat → UInt8
  /-- The outcomes of the draws from the kernel. -/
  outcomes : List Nat
  /-- Nothing can be written out. -/
  outputFull : Bool

/-- What comes of a run. -/
structure Outcome where
  /-- The number that the program exits with. -/
  exit : Nat
  /-- What it writes out. -/
  output : Bytes
  /-- What it says, line by line. -/
  messages : List String
  /-- The attempts at drawing from the kernel, in their order. -/
  draws : List Kernel.Draw
  deriving DecidableEq, Repr

/-! ## Bytes -/

/-- The note that an event is, if it is one. -/
def noteOf? : Event SystemEntropy.Happening → Option Log.Note
  | .note n => some n
  | .inside (.note n) => some n
  | _ => none

/-- Draws bytes from a generator of the given configuration. -/
def Invocation.draw (i : Invocation) (config : Config) (length : Nat) :
    Run (Except Fault Bytes) SystemEntropy.State SystemEntropy.Happening :=
  let fresh := SystemEntropy.State.fresh i.outcomes
  match Generator.ofConfig (SystemEntropy.source i.stream) config with
  | .error fault => ⟨.returned (.error fault), fresh, []⟩
  | .ok g => g.randomVec SystemEntropy.rounds length fresh

/-- The bytes as they are written out. -/
def Options.encode (o : Options) (bytes : Bytes) : Bytes :=
  if o.raw then bytes else Utf8.encode (Hex.encode bytes ++ ['\n'])

/-! ## Reports -/

/-- The name under which the program reports. -/
def topic : String := "randbytes"

/-- The report of an error. -/
def failure (text : String) : Log.Record := .plain .error topic text

/-- What is reported of loading a configuration. -/
def loadingReports (loaded : Except Config.Load.Failure Config) : List Log.Record :=
  match loaded with
  | .ok _ => []
  | .error f =>
    [failure ("Failed to load configuration: " ++ f.message),
      .plain .info topic "Using default configuration"]

/-- The variable that holds the filter for reports. -/
def filterVariable : List Char := "RUST_LOG".toList

/-- The filter for reports. -/
def filterOf (env : Environment) : Log.Filter :=
  ((env.read? filterVariable).bind Log.Filter.ofText?).getD .standard

/-- The reports that a filter admits, in lines. -/
def shownBy (filter : Log.Filter) (reports : List Log.Record) : List String :=
  (reports.filter filter.admits).flatMap fun r => Text.lines r.line

/-! ## The program -/

/-- How the program ends after a draw: with which number, output and reports. -/
def Invocation.conclude (i : Invocation) (o : Options) :
    Ending (Except Fault Bytes) → Nat × Bytes × List Log.Record
  | .returned (.ok bytes) =>
    let output := o.encode bytes
    if i.outputFull && !output.isEmpty then
      (1, [], [failure "Failed to write output: No space left on device (os error 28)"])
    else (0, output, [])
  | .returned (.error fault) => (1, [], [failure fault.message])
  | .panicked p => (101, [], [failure p.message])
  | .unfinished => (101, [], [])

/-- The reports that are shown in a run. -/
def Invocation.shown (i : Invocation) (reports : List Log.Record) : List String :=
  shownBy (filterOf i.environment) reports

/-- Delivers bytes under what has been loaded. -/
def Invocation.deliverWith (i : Invocation) (o : Options)
    (loaded : Except Config.Load.Failure Config) : Outcome :=
  let drawn := i.draw (loaded.toOption.getD .standard) o.length
  let (exit, output, last) := i.conclude o drawn.ending
  let notes := drawn.events.filterMap fun event => (noteOf? event).map .ofNote
  ⟨exit, output, i.shown (loadingReports loaded ++ notes ++ last),
    SystemEntropy.draws drawn.events⟩

/-- Delivers bytes. -/
def Invocation.deliver (i : Invocation) (o : Options) : Outcome :=
  match (Config.load i.files i.directory i.environment).result with
  | .ok loaded => i.deliverWith o loaded
  | .error p => ⟨101, [], i.shown [failure p.message], []⟩

/-- What the program writes out and no more: nothing if nothing can be written. -/
def Invocation.print (i : Invocation) (text : List Char) : Outcome :=
  ⟨0, if i.outputFull then [] else Utf8.encode text, [], []⟩

/-- Runs the program. -/
def run (i : Invocation) : Outcome :=
  match Options.read i.arguments i.environment with
  | .ok options => i.deliver options
  | .error .help => i.print (help i.environment)
  | .error .version => i.print version
  | .error (.refused refusal) => ⟨2, [], refusal.lines.flatMap Text.lines, []⟩

end SeedGate.CommandLine
