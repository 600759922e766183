import SeedGate.Setting
import SeedGate.Toml.Text

/-!
# Tables

A document is a table of tables and values, built up from its lines. Values are
put under keys (`Table.put`), tables are begun by headers (`Table.begin`), and so
are elements of arrays of tables (`Table.beginElement`). Tables on the way that do
not exist yet are made.

Nothing may be defined twice. What that means depends on how a table came to be
(`Kind`): a header may state a table that so far was only on the way of another
header, and a key may go into a table that only keys have made, or one on the way
of a header; but neither may add to what is complete.
-/

namespace SeedGate.Toml

/-- How a table came to be. -/
inductive Kind where
  /-- By a header of its own, as an element of an array, or as the whole document. -/
  | stated
  /-- On the way to the table of some header. -/
  | implied
  /-- On the way to the value of some key. -/
  | dotted
  /-- Inline, as a value; it is complete. -/
  | inline
  deriving DecidableEq, Repr

/-- What there is under a name. -/
inductive Node where
  /-- A value that holds no others. -/
  | value (setting : Setting)
  /-- An array as a value; it is complete. -/
  | array (elements : List Node)
  /-- A table. -/
  | table (kind : Kind) (entries : List (List Char × Node))
  /-- An array of tables, of which only the last can be added to. -/
  | tables (earlier : List Node) (last : List (List Char × Node))

/-- Names with what there is under them. -/
abbrev Table := List (List Char × Node)

namespace Table

/-- The table with something put under a name, in the place of what was there. -/
def assign (name : List Char) (node : Node) : Table → Table
  | [] => [(name, node)]
  | (other, old) :: rest =>
    if other = name then (name, node) :: rest else (other, old) :: assign name node rest

/-- Changes the table that the names lead to from a table of the given kind. Missing
    tables are made and are of kind `made`; keys do not lead into stated tables. -/
def within (made : Kind) (change : Kind → Table → Option Table) :
    (names : List (List Char)) → Kind → Table → Option Table
  | [], kind, table => change kind table
  | name :: names, _, table =>
    match table.lookup name with
    | none =>
      (within made change names made []).map fun inner => assign name (.table made inner) table
    | some (.value _) => none
    | some (.array _) => none
    | some (.tables earlier last) =>
      (within made change names .stated last).map fun inner =>
        assign name (.tables earlier inner) table
    | some (.table kind inner) =>
      if kind = .inline ∨ made = .dotted ∧ kind = .stated then none
      else
        (within made change names kind inner).map fun inner => assign name (.table kind inner) table

/-- Puts a value under a key. The key alone has to have made the table that the name
    stands in, unless it is just a name. -/
def put (key : Key) (node : Node) (kind : Kind) (table : Table) : Option Table :=
  within .dotted
    (fun kind table =>
      if (kind == .dotted) == key.within.isEmpty || (table.lookup key.name).isSome then none
      else some (assign key.name node table))
    key.within kind table

/-- Begins the table of a header. -/
def begin (key : Key) (table : Table) : Option Table :=
  within .implied
    (fun _ table =>
      match table.lookup key.name with
      | none => some (assign key.name (.table .stated []) table)
      | some (.table .implied inner) => some (assign key.name (.table .stated inner) table)
      | some _ => none)
    key.within .stated table

/-- Begins another element of the array of tables of a header. -/
def beginElement (key : Key) (table : Table) : Option Table :=
  within .implied
    (fun _ table =>
      match table.lookup key.name with
      | none => some (assign key.name (.tables [] []) table)
      | some (.tables earlier last) =>
        some (assign key.name (.tables (earlier ++ [.table .stated last]) []) table)
      | some _ => none)
    key.within .stated table

/-- The table of the given values under their keys. -/
def ofPairs (pairs : List (Key × Node)) : Option Table :=
  pairs.foldlM (fun table (key, node) => put key node .stated table) []

end Table

end SeedGate.Toml
