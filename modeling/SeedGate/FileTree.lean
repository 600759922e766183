import SeedGate.Bytes
import SeedGate.Path
import SeedGate.Text.Utf8

/-!
# Trees of files

A `FileTree` lists the files there are, and the directories that need mention
because they are empty; every directory on the way to one of them exists too. A
path is walked from the root name by name (`walk`), and every name but the last
has to be that of a directory. A path of too many bytes leads nowhere.

`nearest?` looks a relative path up in a directory, then in the one around it,
and so on up to the root, and takes the first regular file.
-/

namespace SeedGate

/-- What there is at a place. -/
inductive FileTree.Node where
  | file (contents : Bytes)
  | directory
  deriving DecidableEq, Repr

/-- Files and directories by place. -/
structure FileTree where
  /-- What has been put where. -/
  entries : List (Place × FileTree.Node)
  deriving DecidableEq, Repr

/-- A file that was found: the path it was found under, and what it holds. -/
structure FileTree.Found where
  /-- The absolute path. -/
  path : List Char
  /-- The bytes of the file. -/
  contents : Bytes
  deriving DecidableEq, Repr

namespace FileTree

/-- What there is at a place; a directory if something lies beneath it. -/
def node? (tree : FileTree) (p : Place) : Option Node :=
  match tree.entries.find? (·.1 = p) with
  | some (_, node) => some node
  | none =>
    if p.isEmpty || tree.entries.any (fun (q, _) => p.isPrefixOf q) then some .directory else none

/-- The place that names lead to from a directory. No name and a single dot stay
    where they are, two dots lead up. -/
def walk (tree : FileTree) : Place → List (List Char) → Option Place
  | p, [] => some p
  | p, name :: rest =>
    match tree.node? p with
    | some .directory =>
      if name = [] ∨ name = ['.'] then walk tree p rest
      else if name = ['.', '.'] then walk tree p.dropLast rest
      else walk tree (p ++ [name]) rest
    | _ => none

/-- The most bytes in a path. -/
def maxPathLen : Nat := 4095

/-- The regular file at an absolute path. -/
def open? (tree : FileTree) (path : List Char) : Option Found :=
  if maxPathLen < (Utf8.encode path).length then none
  else
    match (tree.walk [] (Text.split '/' path)).bind tree.node? with
    | some (.file contents) => some ⟨path, contents⟩
    | _ => none

/-- The regular file that a path means in a directory: an absolute path where it
    says, a relative one in the directory or the nearest around it that has one. -/
def nearest? (tree : FileTree) (directory : Place) (path : List Char) : Option Found :=
  if Path.isAbsolute path then tree.open? path
  else directory.outward.findSome? fun p => tree.open? (p.append path)

end FileTree

end SeedGate
