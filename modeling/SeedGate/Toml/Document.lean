import SeedGate.Toml.Value

/-!
# TOML documents

The lines of a document are read into `Expression`s, and these, one after the
other, into one table (`Toml.read`). A key belongs to the table of the last header
before it. The document is malformed if any of its lines is, or if some line
defines what is defined already.

The modules of `Toml` follow the parser that the program uses, a package from elsewhere.
Where that takes more or less than the format does, so does `Toml.read`.
-/

namespace SeedGate.Toml

/-- What a line of a document says. -/
inductive Expression where
  /-- That a key has a value. -/
  | pair (key : Key) (node : Node)
  /-- That a table begins. -/
  | table (key : Key)
  /-- That another element of an array of tables begins. -/
  | element (key : Key)

/-- A header after its first bracket. -/
def header (cs : List Char) : Option (Expression × List Char) :=
  match cs with
  | '[' :: rest => do
    match ← key rest with
    | (key, ']' :: ']' :: rest) => return (.element key, rest)
    | _ => none
  | _ => do
    match ← key cs with
    | (key, ']' :: rest) => return (.table key, rest)
    | _ => none

/-- What the line says that the text begins with, if it says anything, and the text
    after the line. -/
def line (cs : List Char) : Option (Option Expression × List Char) :=
  let finished (scanned : Expression × List Char) : Option (Option Expression × List Char) :=
    (finishLine scanned.2).map (some scanned.1, ·)
  match skipSpaces cs with
  | '[' :: rest => (header rest).bind finished
  | c :: rest =>
    if c = '#' ∨ c = '\n' ∨ c = '\r' then (finishLine (c :: rest)).map (none, ·)
    else
      (pair (value maxDepth) (c :: rest)).bind fun ((key, node), rest) =>
        finished (.pair key node, rest)
  | [] => some (none, [])

/-- The expressions of a document. Every line is at least one character long, so as
    many rounds as there are characters suffice. -/
def expressions : (fuel : Nat) → List Char → Option (List Expression)
  | _, [] => some []
  | 0, _ => none
  | fuel + 1, cs => do
    let (expression?, rest) ← line cs
    let others ← expressions fuel rest
    return expression?.toList ++ others

/-- A document in the making: its table, and the names that lead to the table of the
    last header. -/
structure Draft where
  /-- The whole document so far. -/
  table : Table
  /-- Where keys go. -/
  current : List (List Char)

/-- The document after another expression. -/
def Draft.add (draft : Draft) : Expression → Option Draft
  | .pair key node =>
    (Table.within .implied (Table.put key node) draft.current .stated draft.table).map
      fun table => { draft with table }
  | .table key => (draft.table.begin key).map fun table => ⟨table, key.within ++ [key.name]⟩
  | .element key =>
    (draft.table.beginElement key).map fun table => ⟨table, key.within ++ [key.name]⟩

/-- The table of a document. -/
def read (text : List Char) : Option Table := do
  let text := match text with
    | '\uFEFF' :: rest => rest
    | _ => text
  let draft ← (← expressions text.length text).foldlM Draft.add ⟨[], []⟩
  return draft.table

end SeedGate.Toml
