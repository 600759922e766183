import SeedGate.Toml.Table

/-!
# Settings in tables

What stands under a name in a document is a setting (`Toml.Node.setting`): arrays are
sequences and tables are maps, but for tables that wrap a value. Such a table has the
value under the name `wrappedName`, and whatever else it has does not count.

A wrapping could also bear a mark, under `markName`. No document can hold a mark, so one
in which that name occurs below the top level (`Toml.Table.isMarked`) means nothing.

Both names, and what they do to a table, come from the package by which the program puts
its layers together. The program itself knows of neither.
-/

namespace SeedGate

namespace Toml

/-- The name in a table under which a wrapped value is. -/
def wrappedName : List Char := "___figment_value_value".toList

/-- The name in a table under which the mark of a wrapping would be. -/
def markName : List Char := "___figment_value_id".toList

mutual

/-- What a node means as a setting. -/
def Node.setting : Node → Setting
  | .value setting => setting
  | .array _ => .sequence
  | .tables .. => .sequence
  | .table _ entries => (wrapped? entries).getD .map

/-- The setting that entries wrap, if they do. -/
def wrapped? : List (List Char × Node) → Option Setting
  | [] => none
  | (name, node) :: rest => if name = wrappedName then some node.setting else wrapped? rest

end

mutual

/-- A mark is in a node. -/
def Node.isMarked : Node → Bool
  | .value _ => false
  | .array elements => isMarkedAny elements
  | .table _ entries => isMarkedIn entries
  | .tables earlier last => isMarkedAny earlier || isMarkedIn last

/-- A mark is in one of several nodes. -/
def isMarkedAny : List Node → Bool
  | [] => false
  | node :: rest => node.isMarked || isMarkedAny rest

/-- A mark is among entries. -/
def isMarkedIn : List (List Char × Node) → Bool
  | [] => false
  | (name, node) :: rest => name = markName || node.isMarked || isMarkedIn rest

end

/-- A mark is somewhere below the top level of a document. -/
def Table.isMarked (table : Table) : Bool := table.any fun (_, node) => node.isMarked

/-- What a name at the top level of a document is set to. -/
def Table.setting? (table : Table) (name : List Char) : Option Setting :=
  (table.lookup name).map (·.setting)

end Toml

end SeedGate
