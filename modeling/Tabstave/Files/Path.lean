/-!
# Paths

A path is a root and the names that lead from it. Reading a path drops empty names and the name `.`,
but keeps `..`, which only the file system can resolve. Of two slashes at the start both count, of
any other number only one does.

`Path.stem` is the last name without its last extension; a point at the start or at the end of a
name starts no extension.
-/

namespace Tabstave

/-- A path. -/
structure Path where
  /-- Nothing, one slash, or two slashes. -/
  root : String
  names : List String
  deriving DecidableEq, Repr

namespace Path

/-- The pieces of a text between its slashes. -/
def splitSlashes : List Char → List (List Char)
  | [] => [[]]
  | c :: rest =>
    if c = '/' then [] :: splitSlashes rest
    else
      match splitSlashes rest with
      | [] => [[c]]
      | piece :: pieces => (c :: piece) :: pieces

/-- Read a path. -/
def ofString (s : String) : Path :=
  let slashes := (s.toList.takeWhile (· = '/')).length
  let root := if slashes = 0 then "" else if slashes = 2 then "//" else "/"
  let pieces := (splitSlashes s.toList).filter fun piece ↦ !piece.isEmpty && piece != ['.']
  ⟨root, pieces.map String.ofList⟩

/-- The text of a path; the path without any name is a point. -/
def toString (path : Path) : String :=
  if path.root.isEmpty && path.names.isEmpty then "."
  else path.root ++ String.intercalate "/" path.names

/-- The last name. -/
def name (path : Path) : String :=
  path.names.getLast?.getD ""

/-- A name without its last extension. -/
def stemOf (name : List Char) : List Char :=
  match name.reverse.span (· != '.') with
  | ([], _) => name
  | (_, []) => name
  | (_, [_]) => name
  | (_, _ :: before) => before.reverse

/-- The last name without its last extension. -/
def stem (path : Path) : String :=
  String.ofList (stemOf path.name.toList)

/-- One path after another; a path with a root stands alone. -/
def join (path next : Path) : Path :=
  if next.root.isEmpty then ⟨path.root, path.names ++ next.names⟩ else next

/-- The path without its last name. -/
def parent (path : Path) : Path :=
  ⟨path.root, path.names.dropLast⟩

end Path

end Tabstave
