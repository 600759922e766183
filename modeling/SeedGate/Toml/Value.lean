import SeedGate.Toml.Number
import SeedGate.Toml.Table

/-!
# TOML values

A value is a string, a truth value, a number, a date, an array or an inline table.
Arrays and inline tables lie inside one another to a limited depth. An array may
go over lines and have comments and a last comma; an inline table may not.
-/

namespace SeedGate.Toml

/-- The elements of an array, and the text after its closing bracket. -/
def elements (element : List Char → Option (Node × List Char)) :
    (fuel : Nat) → List Char → Option (List Node × List Char)
  | 0, _ => none
  | fuel + 1, cs =>
    match skipGaps cs with
    | ']' :: rest => some ([], rest)
    | cs => do
      let (first, rest) ← element cs
      match skipGaps rest with
      | ',' :: rest =>
        let (others, rest) ← elements element fuel rest
        return (first :: others, rest)
      | ']' :: rest => return ([first], rest)
      | _ => none

/-- A key and its value, with the blanks between them. -/
def pair (value : List Char → Option (Node × List Char)) (cs : List Char) :
    Option ((Key × Node) × List Char) := do
  match ← key cs with
  | (key, '=' :: rest) =>
    let (node, rest) ← value (skipSpaces rest)
    return ((key, node), rest)
  | _ => none

/-- The pairs of an inline table, the first of which the text begins with, and the
    text after its closing brace. -/
def pairs (value : List Char → Option (Node × List Char)) :
    (fuel : Nat) → List Char → Option (List (Key × Node) × List Char)
  | 0, _ => none
  | fuel + 1, cs => do
    let (first, rest) ← pair value cs
    match skipSpaces rest with
    | ',' :: rest =>
      let (others, rest) ← pairs value fuel rest
      return (first :: others, rest)
    | '}' :: rest => return ([first], rest)
    | _ => none

/-- An inline table after its opening brace, if its keys can all be in one table, and the
    text after it. -/
def inlineTable (value : List Char → Option (Node × List Char)) (cs : List Char) :
    Option (Table × List Char) :=
  match skipSpaces cs with
  | '}' :: rest => some ([], rest)
  | cs => do
    let (ps, rest) ← pairs value cs.length cs
    return (← Table.ofPairs ps, rest)

/-- A value without brackets. -/
def plain (cs : List Char) : Option (Setting × List Char) :=
  match cs with
  | '"' :: _ => (string '"' cs).map fun (s, rest) => (.text s, rest)
  | '\'' :: _ => (string '\'' cs).map fun (s, rest) => (.text s, rest)
  | 't' :: 'r' :: 'u' :: 'e' :: rest => some (.boolean true, rest)
  | 'f' :: 'a' :: 'l' :: 's' :: 'e' :: rest => some (.boolean false, rest)
  | _ => numberOrDate cs

/-- A value in which no more than `depth` brackets are open at once. -/
def value (depth : Nat) (cs : List Char) : Option (Node × List Char) :=
  match depth, cs with
  | depth + 1, '[' :: rest =>
    (elements (value depth) rest.length rest).map fun (items, rest) => (.array items, rest)
  | depth + 1, '{' :: rest =>
    (inlineTable (value depth) rest).map fun (table, rest) => (.table .inline table, rest)
  | _, cs => (plain cs).map fun (setting, rest) => (.value setting, rest)

end SeedGate.Toml
