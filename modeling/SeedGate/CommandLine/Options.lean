import SeedGate.Environment
import SeedGate.Text.Blank
import SeedGate.Text.Similarity

/-!
# The options of `randbytes`

The program takes a length and the wish for raw bytes. Its arguments are read one
after the other (`Options.read`), each one as a flag by its long name, a cluster of
short flags, or the length that a flag before it waits for. Two dashes alone end the
flags. A length not given comes from the variable `RANDBYTES_LEN`, or is standard.

A length given as an argument of its own is checked only when the next flag is met
or the arguments end; until then an unknown argument is the greater trouble. So of
several things wrong not always the first is reported.

The flags, their names and the variable are the program's own. How arguments are read,
and which flag is offered for an unknown one, is up to the package that it reads them by.
-/

namespace SeedGate.CommandLine

open Text

/-- What can be asked for by name. -/
inductive Flag where
  | length
  | raw
  | help
  | version
  deriving DecidableEq, Repr

namespace Flag

/-- All flags. -/
def all : List Flag := [.length, .raw, .help, .version]

/-- The long name, which two dashes precede. -/
def long : Flag → String
  | .length => "len"
  | .raw => "raw"
  | .help => "help"
  | .version => "version"

/-- The short name, which one dash precedes. -/
def short? : Flag → Option Char
  | .length => some 'n'
  | .raw => none
  | .help => some 'h'
  | .version => some 'V'

/-- The flag with the given long name. -/
def ofLong? (name : List Char) : Option Flag := all.find? fun f => f.long.toList = name

/-- The flag with the given short name. -/
def ofShort? (c : Char) : Option Flag := all.find? fun f => f.short? = some c

/-- The flag is about what to deliver, and not about the program itself. -/
def isAboutOutput (flag : Flag) : Bool := flag == .length || flag == .raw

/-- More similar than this is similar enough: seven tenths. -/
def enough : Binary64 := .ofDecimal false 7 (-1)

/-- The flag whose long name is most similar to a word, if one is similar enough. Of
    equally similar ones it is the last. -/
def similar? (word : List Char) : Option Flag :=
  let similarity (f : Flag) : Binary64 := Text.similarity word f.long.toList
  (all.filter fun f => enough.isLess (similarity f)).foldl
    (fun best? f =>
      match best? with
      | some best => if (similarity f).isLess (similarity best) then best? else some f
      | none => some f)
    none

end Flag

/-- Why a text is not a length. -/
inductive NotLength where
  | empty
  | invalidDigit
  | tooLarge
  deriving DecidableEq, Repr

/-- What is wrong with the arguments. -/
inductive Refusal where
  /-- An argument that means nothing, perhaps meant as some flag; and the flags that
      were understood before it. -/
  | unexpected (argument : List Char) (similar? : Option Flag) (understood : List Flag)
  /-- A value for a flag that takes none; and whether a flag about the output was
      understood before. -/
  | unexpectedValue (value : List Char) (flag : Flag) (begun : Bool)
  /-- No value for the length. -/
  | missingValue
  /-- A flag given twice. -/
  | repeated (flag : Flag)
  /-- A length that is none. -/
  | invalidLength (value : List Char) (reason : NotLength)
  /-- A length that is not text. -/
  | notText
  deriving DecidableEq, Repr

/-- Why the program does not go on to deliver bytes. -/
inductive Stop where
  | help
  | version
  | refused (refusal : Refusal)
  deriving DecidableEq, Repr

/-! ## Lengths -/

/-- The number that digits denote after `n`, below `2 ^ 64`. -/
def digitsFrom (n : Nat) : List Char → Except NotLength Nat
  | [] => .ok n
  | c :: cs =>
    if isDigit c then
      let longer := n * 10 + (c.toNat - '0'.toNat)
      if longer < UInt64.size then digitsFrom longer cs else .error .tooLarge
    else .error .invalidDigit

/-- A length in decimal digits, which a plus sign may precede. -/
def parseLength (cs : List Char) : Except NotLength Nat :=
  match cs with
  | [] => .error .empty
  | ['+'] => .error .invalidDigit
  | '+' :: cs => digitsFrom 0 cs
  | cs => digitsFrom 0 cs

/-- A length in bytes that have to be text. -/
def readLength (value : Bytes) : Except Stop Nat :=
  match Utf8.decode? value with
  | none => .error (.refused .notText)
  | some cs =>
    match parseLength cs with
    | .ok n => .ok n
    | .error reason => .error (.refused (.invalidLength cs reason))

/-! ## Arguments -/

/-- A length that has been announced by its flag but not checked yet. -/
inductive Pending where
  /-- The next argument has to be it. -/
  | awaited
  /-- The argument that was taken for it. -/
  | taken (value : Bytes)
  deriving DecidableEq, Repr

/-- Something that has been said about the output. -/
inductive Choice where
  | length (n : Nat)
  | raw
  deriving DecidableEq, Repr

namespace Choice

/-- The flag that says it. -/
def flag : Choice → Flag
  | .length _ => .length
  | .raw => .raw

/-- The length, if it is one. -/
def length? : Choice → Option Nat
  | .length n => some n
  | .raw => none

end Choice

/-- How far the arguments have been read. -/
structure Progress where
  /-- What has been said about the output, in this order and nothing twice. -/
  choices : List Choice
  /-- A length announced but not checked yet. -/
  pending? : Option Pending
  deriving DecidableEq, Repr

namespace Progress

/-- Nothing has been read. -/
def start : Progress := ⟨[], none⟩

/-- The length, if one has been given. -/
def length? (p : Progress) : Option Nat := p.choices.findSome? Choice.length?

/-- Raw bytes have been asked for. -/
def raw (p : Progress) : Bool := p.choices.contains .raw

/-- Something has been said about the output. -/
def begun (p : Progress) : Bool := !p.choices.isEmpty

/-- One thing more has been said about the output. -/
def choose (p : Progress) (choice : Choice) : Progress :=
  { p with choices := p.choices ++ [choice] }

/-- Takes up a length as given by its flag. -/
def withLength (p : Progress) (value : Bytes) : Except Stop Progress :=
  if p.length?.isSome then .error (.refused (.repeated .length))
  else (readLength value).map fun n => p.choose (.length n)

/-- Checks a length that has been announced. -/
def settle (p : Progress) : Except Stop Progress :=
  match p.pending? with
  | none => .ok p
  | some .awaited => .error (.refused .missingValue)
  | some (.taken value) => { p with pending? := none }.withLength value

/-- The flags that count as understood when an unknown argument turns up. A length that
    has been taken counts before it is checked; but if it is the second one, none does. -/
def understood (p : Progress) : List Flag :=
  let flags := p.choices.map (·.flag)
  match p.pending? with
  | some (.taken _) => if p.length?.isSome then flags.erase .length else flags ++ [.length]
  | _ => flags

/-- Takes up a flag without a value. -/
def withFlag (p : Progress) (flag : Flag) : Except Stop Progress := do
  let p ← p.settle
  match flag with
  | .help => .error .help
  | .version => .error .version
  | .raw =>
    if p.raw then .error (.refused (.repeated .raw)) else .ok (p.choose .raw)
  | .length => .ok { p with pending? := some .awaited }

/-- Takes up a flag by its long name, perhaps with a value after an equals sign. -/
def withLong (p : Progress) (name : Bytes) (value? : Option Bytes) : Except Stop Progress :=
  let word := Utf8.lossy name
  match (Utf8.decode? name).bind Flag.ofLong?, value? with
  | some .length, some value => p.settle.bind (·.withLength value)
  | some flag, some value =>
    .error (.refused (.unexpectedValue (Utf8.lossy value) flag p.begun))
  | some flag, none => p.withFlag flag
  | none, _ =>
    .error (.refused (.unexpected ('-' :: '-' :: word) (Flag.similar? word) p.understood))

/-- Takes up a cluster of short flags, which bytes that are not text follow. A length
    is what follows its flag in the cluster, or else the next argument. -/
def withShort (broken : Bytes) : List Char → Progress → Except Stop Progress
  | [], p =>
    if broken.isEmpty then .ok p
    else .error (.refused (.unexpected ('-' :: Utf8.lossy broken) none []))
  | c :: cs, p =>
    match Flag.ofShort? c with
    | none => .error (.refused (.unexpected ['-', c] none []))
    | some .length =>
      match Utf8.encode cs ++ broken with
      | [] => p.withFlag .length
      | 0x3D :: value => p.settle.bind (·.withLength value)
      | value => p.settle.bind (·.withLength value)
    | some flag => (p.withFlag flag).bind (withShort broken cs)

/-- Takes up an argument that is no flag. -/
def withValue (p : Progress) (argument : Bytes) : Except Stop Progress :=
  match p.pending? with
  | some .awaited => .ok { p with pending? := some (.taken argument) }
  | _ => .error (.refused (.unexpected (Utf8.lossy argument) none []))

/-- Takes up an argument. -/
def withArgument (p : Progress) (argument : Bytes) : Except Stop Progress :=
  match argument with
  | 0x2D :: 0x2D :: rest =>
    match rest.dropWhile (· != 0x3D) with
    | [] => p.withLong rest none
    | _ :: value => p.withLong (rest.takeWhile (· != 0x3D)) (some value)
  | 0x2D :: first :: rest =>
    let (cs, broken) := Utf8.textBefore (rest.length + 1) (first :: rest)
    withShort broken cs p
  | _ => p.withValue argument

/-- Takes up all arguments. Nothing may follow two dashes alone. -/
def withArguments (p : Progress) : List Bytes → Except Stop Progress
  | [] => p.settle
  | [0x2D, 0x2D] :: rest =>
    match rest with
    | [] => p.settle
    | argument :: _ => .error (.refused (.unexpected (Utf8.lossy argument) none []))
  | argument :: rest => (p.withArgument argument).bind (·.withArguments rest)

end Progress

/-! ## Options -/

/-- What the program is to do. -/
structure Options where
  /-- How many bytes to deliver. -/
  length : Nat
  /-- Deliver them as they are, and not as digits. -/
  raw : Bool
  deriving DecidableEq, Repr

/-- The variable that holds the length if no argument does. -/
def lengthVariable : List Char := "RANDBYTES_LEN".toList

/-- The length if nothing says otherwise. -/
def standardLength : Nat := 32

/-- Reads the arguments of the program. -/
def Options.read (arguments : List Bytes) (env : Environment) : Except Stop Options := do
  let p ← Progress.start.withArguments arguments
  let length ← match p.length?, env.get? lengthVariable with
    | some n, _ => .ok n
    | none, some value => readLength value.bytes
    | none, none => .ok standardLength
  return ⟨length, p.raw⟩

end SeedGate.CommandLine
