import SeedGate.Text.Split

/-!
# Paths

A `Place` is a directory or file as the names that lead to it from the root. A
path is a text: absolute if it begins with a slash, and otherwise meant from some
directory (`Place.append`). Slashes may be repeated and single dots stand for
nothing, so a path is compared by its `components`, and shown from the working
directory where that is shorter (`Path.shownFrom`).
-/

namespace SeedGate

/-- A place in a tree of files: the names on the way to it from the root. -/
abbrev Place := List (List Char)

namespace Place

/-- The absolute path of a place. -/
def path (p : Place) : List Char := '/' :: Text.join '/' p

/-- The place, and all directories around it from the inside out. -/
def outward : Place → List Place
  | [] => [[]]
  | name :: rest => (outward rest).map (name :: ·) ++ [[]]

/-- The path of what a relative path means from a place. -/
def append (p : Place) (relative : List Char) : List Char :=
  if p.isEmpty then '/' :: relative else p.path ++ '/' :: relative

end Place

namespace Path

/-- The path is meant from the root. -/
def isAbsolute (path : List Char) : Bool := path.head? == some '/'

/-- The names in a path, without empty ones and single dots. -/
def components (path : List Char) : List (List Char) :=
  (Text.split '/' path).filter fun name => !name.isEmpty && name != ['.']

/-- How many names two lists have in common at the beginning. -/
def shared : List (List Char) → List (List Char) → Nat
  | a :: as, b :: bs => if a = b then shared as bs + 1 else 0
  | _, _ => 0

/-- The names that lead from a directory to an absolute path, up first and then
    down. -/
def relative (directory : Place) (path : List Char) : List (List Char) :=
  let names := components path
  let common := shared names directory
  List.replicate (directory.length - common) ['.', '.'] ++ names.drop common

/-- An absolute path as it is shown to someone in the given directory: from there
    if that takes fewer steps than from the root, the root itself being one. -/
def shownFrom (directory : Place) (path : List Char) : List Char :=
  let steps := relative directory path
  if steps.length < (components path).length + 1 then Text.join '/' steps else path

end Path

end SeedGate
