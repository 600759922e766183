import SeedGate.Text.Alphanumeric
import SeedGate.Text.Blank

/-!
# Assignments

A line of an environment file is blank or assigns a value to a name
(`Line.read`). The value is bare text with escapes, or has parts in quotes: in
single quotes all characters stand for themselves, in double quotes escapes do
not. A dollar sign outside single quotes is followed by a name, in braces or as
long as letters and numerals go, and stands for what that name denotes.
-/

namespace SeedGate.EnvFile

open Text

/-- What a line says. -/
inductive Line where
  /-- Nothing. -/
  | blank
  /-- That a variable is to have a value. -/
  | assignment (name value : List Char)
  deriving DecidableEq, Repr

/-- What the reading of a value is in the middle of. -/
inductive Mode where
  /-- Text, bare or in double quotes. -/
  | text
  /-- A backslash, which says what the next character stands for. -/
  | escape
  /-- Single quotes. -/
  | single
  /-- A name after a dollar sign. -/
  | name (soFar : List Char)
  /-- A name after a dollar sign and a brace. -/
  | braced (soFar : List Char)
  /-- Blanks after the value. -/
  | ended
  deriving DecidableEq, Repr

/-- The character that a backslash and the given character stand for. -/
def escaped? (c : Char) : Option Char :=
  if ['\\', '\'', '"', '$', ' '].contains c then some c
  else if c = 'n' then some '\n'
  else none

/-- The rest of a value, in the given mode, and inside double quotes if `double` is
    set. `meaning` tells what a name denotes. -/
def valueFrom (meaning : List Char → List Char) :
    (mode : Mode) → (double : Bool) → List Char → Option (List Char)
  | .single, _, [] => none
  | .braced _, _, [] => none
  | .name soFar, double, [] => if double then none else some (meaning soFar)
  | _, double, [] => if double then none else some []
  | .ended, double, c :: cs =>
    if c = ' ' ∨ c = '\t' then valueFrom meaning .ended double cs
    else if c = '#' then some []
    else none
  | .escape, double, c :: cs => do
    let e ← escaped? c
    (valueFrom meaning .text double cs).map (e :: ·)
  | .single, double, c :: cs =>
    if c = '\'' then valueFrom meaning .text double cs
    else (valueFrom meaning .single double cs).map (c :: ·)
  | .name soFar, double, c :: cs =>
    if isAlphanumeric c then valueFrom meaning (.name (soFar ++ [c])) double cs
    else if c = '{' ∧ soFar = [] then valueFrom meaning (.braced []) double cs
    else if c = '$' then (valueFrom meaning (.name []) double cs).map (meaning soFar ++ ·)
    else (valueFrom meaning .text double cs).map (meaning soFar ++ c :: ·)
  | .braced soFar, double, c :: cs =>
    if c = '}' then (valueFrom meaning .text double cs).map (meaning soFar ++ ·)
    else valueFrom meaning (.braced (soFar ++ [c])) double cs
  | .text, double, c :: cs =>
    if c = '$' then valueFrom meaning (.name []) double cs
    else if c = '\\' then valueFrom meaning .escape double cs
    else if c = '"' then valueFrom meaning .text (!double) cs
    else if double then (valueFrom meaning .text double cs).map (c :: ·)
    else if c = '\'' then valueFrom meaning .single double cs
    else if c = ' ' ∨ c = '\t' then valueFrom meaning .ended double cs
    else (valueFrom meaning .text double cs).map (c :: ·)

/-- The value at the end of a line, which a comment or nothing at all leaves empty. -/
def value (meaning : List Char → List Char) (cs : List Char) : Option (List Char) :=
  if cs.isEmpty || startsWith cs ['#'] then some [] else valueFrom meaning .text false cs

/-- A name begins with a letter or an underscore. -/
def beginsName (c : Char) : Bool := isLetter c || c == '_'

/-- A name goes on with letters, digits, underscores and points. -/
def goesOnName (c : Char) : Bool := isLetter c || isDigit c || c == '_' || c == '.'

/-- A name, and what follows it and the blanks after it. -/
def name (cs : List Char) : Option (List Char × List Char) :=
  match cs with
  | c :: rest =>
    if beginsName c then some (c :: rest.takeWhile goesOnName, trimLeft (rest.dropWhile goesOnName))
    else none
  | [] => none

/-- The name before an equals sign, and what follows that sign. The word `export`
    may stand before the name. -/
def target (cs : List Char) : Option (List Char × List Char) := do
  match ← name cs with
  | (found, '=' :: rest) => some (found, rest)
  | (word, rest) =>
    if word = "export".toList then
      match ← name rest with
      | (found, '=' :: rest) => some (found, rest)
      | _ => none
    else none

/-- Reads a line; nothing if it is malformed. -/
def Line.read (meaning : List Char → List Char) (line : List Char) : Option Line :=
  let cs := trimLeft (trimRight line)
  if cs.isEmpty || startsWith cs ['#'] then some .blank
  else do
    let (found, rest) ← target cs
    let value ← value meaning (trimLeft rest)
    return .assignment found value

end SeedGate.EnvFile
