import SeedGate.CommandLine.Options
import SeedGate.Text.Split
import SeedGate.Text.Terminal

/-!
# What `randbytes` says about its use

The help, the version, and what the program says about arguments that it refuses.
A refusal names the argument, offers the flag that may have been meant, and shows
how the program is used with the flags that were understood. Control sequences in
what comes from outside are left out.

What the program does and what its flags are for is said in its own words. The rest is worded
and laid out by the package that reads its arguments.
-/

namespace SeedGate.CommandLine

open Text

/-! ## Help -/

/-- The column of help where the descriptions of flags begin. -/
def helpColumn : Nat := 19

/-- The lines of a description, which begin in their column. -/
def indented (cs : List Char) : List Char :=
  ((split '\n' cs).intersperse ('\n' :: List.replicate helpColumn ' ')).flatten

/-- What stands in help between what the length is at present and the next flag. -/
def afterLength : List Char :=
  "] [default: ".toList ++ (toString standardLength).toList ++ "]\n      ".toList

/-- The help. -/
def help (env : Environment) : List Char :=
  let current := ((env.get? lengthVariable).map (·.shown)).getD []
  "Print secure random bytes from the operating system\n\n".toList ++
    "Usage: randbytes [OPTIONS]\n\n".toList ++
    "Options:\n".toList ++
    "  -n, --len <LEN>  Number of bytes to generate [env: RANDBYTES_LEN=".toList ++
    visible (indented current ++ afterLength) ++
    "--raw        Write raw bytes instead of hex\n".toList ++
    "  -h, --help       Print help\n".toList ++
    "  -V, --version    Print version\n".toList

/-- The version. -/
def version : List Char := "randbytes 0.1.0\n".toList

/-! ## Refusals -/

/-- The flag as it is used. -/
def Flag.usage : Flag → String
  | .length => "--len <LEN>"
  | f => "--" ++ f.long

/-- Why a text is not a length, in words. -/
def NotLength.message : NotLength → String
  | .empty => "cannot parse integer from empty string"
  | .invalidDigit => "invalid digit found in string"
  | .tooLarge => "number too large to fit in target type"

/-- What was refused, between single quotes. -/
def refused (cs : List Char) : String := "'" ++ String.ofList (visible cs) ++ "'"

/-- The refusal in words. -/
def Refusal.message : Refusal → String
  | .unexpected argument _ _ => "unexpected argument " ++ refused argument ++ " found"
  | .unexpectedValue value flag _ =>
    "unexpected value " ++ refused value ++ " for '" ++ flag.usage ++
      "' found; no more were expected"
  | .missingValue => "a value is required for '" ++ Flag.length.usage ++ "' but none was supplied"
  | .repeated flag => "the argument '" ++ flag.usage ++ "' cannot be used multiple times"
  | .invalidLength value reason =>
    "invalid value " ++ refused value ++ " for '" ++ Flag.length.usage ++ "': " ++ reason.message
  | .notText => "invalid UTF-8 was detected in one or more arguments"

/-- The flag that may have been meant. -/
def Refusal.similar? : Refusal → Option Flag
  | .unexpected _ similar? _ => similar?
  | _ => none

/-- What the program can be told about the output: one of two things. -/
def outputUsage : String := "<" ++ Flag.length.usage ++ "|" ++ Flag.raw.usage ++ ">"

/-- How the program is used with the given options. -/
def usage (options : List String) : String :=
  "Usage: " ++ " ".intercalate ("randbytes" :: if options.isEmpty then ["[OPTIONS]"] else options)

/-- How the program is used, as it is shown with a refusal, if it is shown at all. Flags
    that were understood are shown one by one, and one that may have been meant counts
    as understood. But next to a value that a flag cannot have, what was said about the
    output is shown as the choice that there was. -/
def Refusal.usage? : Refusal → Option String
  | .unexpected _ similar? understood =>
    let meant := similar?.toList.filter (!understood.contains ·)
    some (usage ((understood ++ meant).map (·.usage)))
  | .unexpectedValue _ flag begun =>
    let alone := if begun && flag.isAboutOutput then [] else [flag.usage]
    some (usage (alone ++ if begun then [outputUsage] else []))
  | .repeated _ => some (usage [])
  | .notText => some (usage [])
  | .missingValue => none
  | .invalidLength .. => none

/-- What is said about a refusal, a line each. -/
def Refusal.lines (r : Refusal) : List String :=
  let tip (f : Flag) : List String := ["  tip: a similar argument exists: '--" ++ f.long ++ "'", ""]
  let use (usage : String) : List String := [usage, ""]
  ["error: " ++ r.message, ""] ++ r.similar?.elim [] tip ++ r.usage?.elim [] use ++
    ["For more information, try '--help'."]

end SeedGate.CommandLine
