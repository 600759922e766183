import SeedGate.Bytes.Hex
import SeedGate.Decimal.Reading
import SeedGate.Text.Alphanumeric

/-!
# Patterns

A filter can compare the value of a field with a number or a truth value, or match it
against a pattern. A pattern consists of branches between bars, each a run of pieces:
characters, escapes, classes in brackets and groups in parentheses, any of which a mark
may repeat. `isPattern` tells whether a text is one.

How a piece is read depends on the `Modes`, which groups and pieces of their own
change. Characters are of all scripts unless a mode says that they are ASCII; but there
are no tables of their properties, so whatever asks whether a character of any script is a
digit, a letter or of either case is no pattern. Neither is one whose parts lie inside
one another too deep, nor a class of ASCII with other characters in it.

Patterns come in by the package that writes the log, from another one: the program itself
has no use for them.
-/

namespace SeedGate.Log.Pattern

open Text

/-- How a pattern is read. -/
structure Modes where
  /-- Both cases of a letter are the same. -/
  anyCase : Bool
  /-- Characters are of all scripts. -/
  unicode : Bool
  /-- Blanks and comments between pieces do not count. -/
  spaced : Bool
  deriving DecidableEq, Repr

/-- How a pattern is read at first. -/
def Modes.standard : Modes := ⟨false, true, false⟩

/-- A character or class needs the case of characters of all scripts. -/
def Modes.needsCase (modes : Modes) : Bool := modes.unicode && modes.anyCase

/-! ## Blanks -/

/-- The text after blanks and comments, when it is in the middle of a comment or not. -/
def skipFrom : (inComment : Bool) → List Char → List Char
  | _, [] => []
  | true, c :: cs => skipFrom (c != '\n') cs
  | false, c :: cs =>
    if isBlank c then skipFrom false cs else if c = '#' then skipFrom true cs else c :: cs

/-- The text after what does not count. -/
def Modes.skip (modes : Modes) (cs : List Char) : List Char :=
  if modes.spaced then skipFrom false cs else cs

/-- The next character that counts. A number sign is passed over once, and if nothing
    else follows, the next character counts after all. -/
def Modes.ahead? (modes : Modes) (cs : List Char) : Option Char :=
  if modes.spaced then
    let rest := match cs.dropWhile isBlank with
      | '#' :: rest => rest.dropWhile isBlank
      | rest => rest
    rest.head?.or cs.head?
  else cs.head?

/-! ## Escapes -/

/-- What a backslash and what follows it stand for. -/
inductive Escaped where
  /-- A character, perhaps given as a byte. -/
  | char (c : Char) (isByte : Bool)
  /-- The digits, blanks or characters of words, or all others. -/
  | named (others : Bool)
  /-- An end of the text. -/
  | edge
  /-- An end of a word, or no end. -/
  | wordEdge
  deriving DecidableEq, Repr

/-- The number that so many digits denote, and the text after them. -/
def hexFrom (modes : Modes) : (count : Nat) → (n : Nat) → List Char → Option (Nat × List Char)
  | 0, n, cs => some (n, modes.skip cs)
  | count + 1, n, cs =>
    match modes.skip cs with
    | [] => none
    | c :: rest => (Hex.value? c).bind fun d => hexFrom modes count (n * 16 + d) rest

/-- The character whose number has so many digits. -/
def hexChar (modes : Modes) (count : Nat) (cs : List Char) : Option (Escaped × List Char) :=
  (hexFrom modes count 0 cs).bind fun (n, rest) =>
    if n.isValidChar then some (.char (Char.ofNat n) (count == 2), rest) else none

/-- The controls that have letters of their own. -/
def controls : List (Char × Char) :=
  [('a', '\x07'), ('f', '\x0c'), ('t', '\t'), ('n', '\n'), ('r', '\r'), ('v', '\x0b')]

/-- An escape after its backslash. -/
def escape (modes : Modes) (cs : List Char) : Option (Escaped × List Char) :=
  match cs with
  | [] => none
  | c :: rest =>
    if c = 'x' then hexChar modes 2 rest
    else if c = 'u' then hexChar modes 4 rest
    else if c = 'U' then hexChar modes 8 rest
    else if ['d', 's', 'w'].contains c then some (.named false, rest)
    else if ['D', 'S', 'W'].contains c then some (.named true, rest)
    else if ['A', 'z'].contains c then some (.edge, rest)
    else if ['b', 'B', '<', '>'].contains c then some (.wordEdge, rest)
    else
      match controls.lookup c with
      | some control => some (.char control false, rest)
      | none =>
        if isDigit c || isLetter c || 0x80 ≤ c.toNat then none else some (.char c false, rest)

/-- An escape can stand for a piece. -/
def Escaped.isPiece (modes : Modes) : Escaped → Bool
  | .char c isByte =>
    if modes.unicode then !modes.anyCase else !(isByte && 0x80 ≤ c.toNat)
  | .named others => !modes.unicode && !others
  | .edge => true
  | .wordEdge => !modes.unicode

/-! ## Classes -/

/-- A part of a class or a pattern that is complete: how deep its own parts lie inside one
    another, and whether there is anything in it. -/
structure Part where
  /-- How many layers there are. -/
  depth : Nat
  /-- It has characters, or can be repeated. -/
  filled : Bool
  deriving DecidableEq, Repr

/-- Parts one after the other as one part, which is a layer of its own if there are
    several. -/
def together : List Part → Part
  | [] => ⟨0, false⟩
  | [part] => part
  | parts => ⟨parts.foldl (fun depth part => max depth part.depth) 0 + 1, parts.any (·.filled)⟩

/-- A part that follows another in an operation on both. -/
def combined (left? : Option Part) (right : Part) : Part :=
  match left? with
  | none => right
  | some left => ⟨max left.depth right.depth + 1, left.filled || right.filled⟩

/-- The names of classes of ASCII. -/
def classNames : List String :=
  ["alnum", "alpha", "ascii", "blank", "cntrl", "digit", "graph", "lower", "print", "punct",
    "space", "upper", "word", "xdigit"]

/-- A class given by its name, after its bracket: all other characters are meant, or not;
    and the text after it. -/
def namedClass? (cs : List Char) : Option (Bool × List Char) :=
  match cs with
  | ':' :: rest =>
    let (others, rest) := match rest with
      | '^' :: rest => (true, rest)
      | rest => (false, rest)
    let (name, rest) := rest.span (· != ':')
    match rest with
    | ':' :: ']' :: rest =>
      if classNames.contains (String.ofList name) then some (others, rest) else none
    | _ => none
  | _ => none

/-- A character or an escape in a class. -/
def classItem (modes : Modes) (cs : List Char) : Option (Escaped × List Char) :=
  match cs with
  | [] => none
  | '\\' :: rest => escape modes rest
  | c :: rest => some (.char c false, rest)

/-- The character in a class that an escape stands for, if it does and may. -/
def Escaped.classChar? (modes : Modes) : Escaped → Option Char
  | .char c _ => if modes.unicode || c.toNat < 0x80 then some c else none
  | _ => none

/-- A range in a class, or what can stand there alone, and the text after it. -/
def classRange (modes : Modes) (cs : List Char) : Option (List Char) := do
  let (first, rest) ← classItem modes cs
  let rest := modes.skip rest
  let alone : Option (List Char) := match first with
    | .named others => if modes.unicode || others then none else some rest
    | first => (first.classChar? modes).map fun _ => rest
  match rest with
  | '-' :: afterDash =>
    let next? := modes.ahead? afterDash
    if next? = some ']' ∨ next? = some '-' then alone
    else
      let (last, rest) ← classItem modes (modes.skip afterDash)
      let low ← first.classChar? modes
      let high ← last.classChar? modes
      if low ≤ high then some rest else none
  | _ => alone

/-- The beginning of a class after its bracket: all other characters are meant, or not;
    the parts of it that are read already; and the text after them. Dashes, or else a
    bracket, stand for themselves here. -/
def classStart (modes : Modes) (cs : List Char) : Bool × List Part × List Char :=
  let (others, cs) := match modes.skip cs with
    | '^' :: rest => (true, modes.skip rest)
    | rest => (false, rest)
  let (dashes, cs) := dashesFrom cs.length [] cs
  match dashes, cs with
  | [], ']' :: rest => (others, [⟨0, true⟩], rest)
  | dashes, cs => (others, dashes, cs)
where
  /-- A part for each dash that the text begins with, and the text after them. -/
  dashesFrom : (fuel : Nat) → (parts : List Part) → List Char → List Part × List Char
    | fuel + 1, parts, '-' :: rest => dashesFrom fuel (⟨0, true⟩ :: parts) (modes.skip rest)
    | _, parts, cs => (parts, cs)

/-- The rest of a class: of its parts so far, with what an operation precedes them. The
    class as a part, and the text after its bracket. -/
def classFrom (modes : Modes) : (fuel : Nat) → (others : Bool) → (left? : Option Part) →
    (parts : List Part) → List Char → Option (Part × List Char)
  | 0, _, _, _, _ => none
  | fuel + 1, others, left?, parts, cs =>
    let more (part : Part) (rest : List Char) : Option (Part × List Char) :=
      classFrom modes fuel others left? (part :: parts) rest
    let operation (rest : List Char) : Option (Part × List Char) :=
      classFrom modes fuel others (some (combined left? (together parts))) [] rest
    match modes.skip cs with
    | [] => none
    | ']' :: rest =>
      let whole := combined left? (together parts)
      if (modes.needsCase && whole.filled) || (!modes.unicode && others) then none
      else some (⟨whole.depth + 1, whole.filled || others⟩, rest)
    | '&' :: '&' :: rest => operation rest
    | '-' :: '-' :: rest => operation rest
    | '~' :: '~' :: rest => operation rest
    | '[' :: rest =>
      match namedClass? rest with
      | some (others, rest) => if !modes.unicode && others then none else more ⟨0, true⟩ rest
      | none => do
        let (innerOthers, innerParts, rest) := classStart modes rest
        let (part, rest) ← classFrom modes fuel innerOthers none innerParts rest
        more part rest
    | cs => (classRange modes cs).bind (more ⟨0, true⟩)

/-- A class after its bracket. -/
def charClass (modes : Modes) (cs : List Char) : Option (Part × List Char) :=
  let (others, parts, rest) := classStart modes cs
  classFrom modes (cs.length + 1) others none parts rest

/-! ## Groups -/

/-- Letters that set modes, those after a dash turning them off, up to a colon or a
    parenthesis. No letter stands twice. -/
def modesFrom (on : Bool) (seen : List Char) (modes : Modes) :
    List Char → Option (Modes × List Char)
  | [] => none
  | c :: rest =>
    if c = ':' ∨ c = ')' then if seen.head? = some '-' then none else some (modes, c :: rest)
    else if seen.contains c then none
    else if c = '-' then modesFrom false (c :: seen) modes rest
    else if c = 'i' then modesFrom on (c :: seen) { modes with anyCase := on } rest
    else if c = 'u' then modesFrom on (c :: seen) { modes with unicode := on } rest
    else if c = 'x' then modesFrom on (c :: seen) { modes with spaced := on } rest
    else if ['m', 's', 'U', 'R'].contains c then modesFrom on (c :: seen) modes rest
    else none

/-- A character in the name of a group, its first or a later one. -/
def isInName (first : Bool) (c : Char) : Bool :=
  c == '_' || (isAlphanumeric c && !(first && isDigit c)) ||
    (!first && ['.', '[', ']'].contains c)

/-- The name of a group after its angle bracket, and the text after it. -/
def groupName (cs : List Char) : Option (List Char × List Char) :=
  let (name, rest) := cs.span (· != '>')
  match name, rest with
  | c :: others, '>' :: rest =>
    if isInName true c && others.all (isInName false) then some (name, rest) else none
  | _, _ => none

/-- What a parenthesis opens. -/
inductive Opening where
  /-- A change of modes for what follows. -/
  | change (modes : Modes)
  /-- A group in which modes hold, perhaps named. -/
  | group (modes : Modes) (name? : Option (List Char))

/-- What a parenthesis opens, the text being that after it. -/
def opening (modes : Modes) (cs : List Char) : Option (Opening × List Char) :=
  match modes.skip cs with
  | '?' :: 'P' :: '<' :: rest
  | '?' :: '<' :: rest => (groupName rest).map fun (name, rest) => (.group modes (some name), rest)
  | '?' :: rest => do
    match ← modesFrom true [] modes rest with
    | (inner, ':' :: after) => some (.group inner none, after)
    | (changed, _ :: after) => if rest.head? = some ')' then none else some (.change changed, after)
    | _ => none
  | rest => some (.group modes none, rest)

/-! ## Patterns -/

/-- How many layers of parts a pattern may have. -/
def maxDepth : Nat := 250

/-- Branches up to the end of their group or of the pattern, of which some are complete as
    one part and the current one has the given pieces, the latest first; they come with
    the names of groups so far and the text after them. -/
def branchesFrom : (fuel : Nat) → Modes → (names : List (List Char)) → (complete? : Option Part) →
    (pieces : List Part) → List Char → Option (Part × List (List Char) × List Char)
  | 0, _, _, _, _, _ => none
  | fuel + 1, modes, names, complete?, pieces, cs =>
    let more (part : Part) (rest : List Char) :=
      branchesFrom fuel modes names complete? (part :: pieces) rest
    let finish (rest : List Char) : Option (Part × List (List Char) × List Char) :=
      some (combined complete? (together pieces), names, rest)
    match modes.skip cs with
    | [] => finish []
    | c :: rest =>
      if c = ')' then finish (c :: rest)
      else if c = '|' then
        let branch := together pieces
        let complete := complete?.elim branch fun part => ⟨max part.depth branch.depth, true⟩
        branchesFrom fuel modes names (some complete) [] rest
      else if c = '(' then do
        match ← opening modes rest with
        | (.change changed, rest) =>
          branchesFrom fuel changed names complete? (⟨0, false⟩ :: pieces) rest
        | (.group inner name?, rest) =>
          if name?.any names.contains then none
          else
            match ← branchesFrom fuel inner (name?.toList ++ names) none [] rest with
            | (part, names, ')' :: rest) =>
              branchesFrom fuel modes names complete? (⟨part.depth + 1, true⟩ :: pieces) rest
            | _ => none
      else if c = '?' ∨ c = '*' ∨ c = '+' then
        match pieces with
        | ⟨depth, true⟩ :: others =>
          let rest := if rest.head? = some '?' then rest.tail else rest
          branchesFrom fuel modes names complete? (⟨depth + 1, true⟩ :: others) rest
        | _ => none
      else if c = '[' then
        (charClass modes rest).bind fun (part, rest) => more ⟨part.depth, true⟩ rest
      else if c = '\\' then
        (escape modes rest).bind fun (escaped, rest) =>
          if escaped.isPiece modes then more ⟨0, true⟩ rest else none
      else if c = '^' ∨ c = '$' then more ⟨0, true⟩ rest
      else if c = '.' then if modes.unicode then more ⟨0, true⟩ rest else none
      else if c = '{' ∨ modes.needsCase then none
      else more ⟨0, true⟩ rest

/-- The text is a pattern. A brace, with which a count of repetitions would begin, stands
    nowhere but in classes. -/
def isPattern (cs : List Char) : Bool :=
  match branchesFrom (cs.length + 1) .standard [] none [] cs with
  | some (part, _, []) => part.depth ≤ maxDepth
  | _ => false

/-- The value of a field can be compared with what the text denotes. -/
def isComparable (cs : List Char) : Bool := Decimal.isNumber cs || isPattern cs

end SeedGate.Log.Pattern
