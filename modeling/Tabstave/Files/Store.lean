import Tabstave.Fault
import Tabstave.Files.Path
import Tabstave.Text.Utf8

/-!
# Files and directories

A `Store` says what is at each place of a file system: a directory or a file with its bytes, either
of which may be closed to the program. There are no links. A place is the list of names that lead to
it from the root. `resolve` follows a path from the working directory, name by name, as the
operating system does: what is passed through has to be there and to be a directory, and `..` leads
up.

`get?_put` says that storing something at a place changes that place and no other.
-/

namespace Tabstave

/-- The names that lead from the root to a place. -/
abbrev Place := List String

/-- What can be at a place. -/
inductive Node
  | directory
  /-- A directory that may not be passed through. -/
  | sealed
  | file (bytes : List UInt8)
  /-- A file that may be neither read nor written. -/
  | locked
  deriving DecidableEq, Repr

/-- Whether it is a directory, closed or not. -/
def Node.isDirectory : Node → Bool
  | .directory | .sealed => true
  | .file _ | .locked => false

/-- What is at which place, and which place is the working directory. -/
structure Store where
  nodes : List (Place × Node)
  working : Place
  deriving DecidableEq, Repr

namespace Store

/-- What is at a place; the root is always a directory. -/
def get? (store : Store) (place : Place) : Option Node :=
  if place = [] then some .directory else store.nodes.lookup place

/-- Set what is at a place, in place if something is there already. -/
def putNode (place : Place) (node : Node) : List (Place × Node) → List (Place × Node)
  | [] => [(place, node)]
  | entry :: rest =>
    if entry.1 = place then (place, node) :: rest else entry :: putNode place node rest

/-- Put something at a place. -/
def put (store : Store) (place : Place) (node : Node) : Store :=
  { store with nodes := putNode place node store.nodes }

theorem lookup_putNode (place other : Place) (node : Node) (nodes : List (Place × Node)) :
    (putNode place node nodes).lookup other =
      if other = place then some node else nodes.lookup other := by
  induction nodes with
  | nil =>
    by_cases h : other = place
    · simp [putNode, h]
    · have : (other == place) = false := by simpa using h
      simp [putNode, List.lookup_cons, h, this]
  | cons entry rest ih =>
    obtain ⟨at_, here⟩ := entry
    by_cases same : at_ = place
    · subst same
      by_cases h : other = at_
      · simp [putNode, h]
      · have : (other == at_) = false := by simpa using h
        simp [putNode, List.lookup_cons, h, this]
    · by_cases h : other = at_
      · have differs : ¬other = place := fun k ↦ same (h.symm.trans k)
        subst h
        simp [putNode, same]
      · have : (other == at_) = false := by simpa using h
        simp [putNode, List.lookup_cons, same, this, ih]

/-- Storing something changes what is at its place, and nothing else. -/
theorem get?_put (store : Store) (place other : Place) (node : Node) (below : place ≠ []) :
    (store.put place node).get? other = if other = place then some node else store.get? other := by
  by_cases root : other = []
  · subst root
    simp [get?, Ne.symm below]
  · simp [get?, put, root, lookup_putNode]

/-- The most bytes that a name may have. -/
def maxNameBytes : Nat :=
  255

/-- The most bytes that a path may have. -/
def maxPathBytes : Nat :=
  4095

/-- Follow names from a directory. The answer is the place to which they lead and what is there, if
anything; only the last name may lead to nothing. -/
def walk (store : Store) (place : Place) : List String → Except FileFault (Place × Option Node)
  | [] => .ok (place, store.get? place)
  | name :: rest =>
    match store.get? place with
    | some .directory =>
      if maxNameBytes < name.utf8ByteSize then .error .nameTooLong
      else if name = ".." then walk store place.dropLast rest
      else
        match rest, store.get? (place ++ [name]) with
        | [], found => .ok (place ++ [name], found)
        | _ :: _, some _ => walk store (place ++ [name]) rest
        | _ :: _, none => .error .missing
    | some .sealed => .error .denied
    | some (.file _) => .error .notADirectory
    | some .locked => .error .notADirectory
    | none => .error .missing

/-- Follow a path from the working directory, or from the root if it has one. -/
def resolve (store : Store) (path : Path) : Except FileFault (Place × Option Node) :=
  if maxPathBytes < path.toString.utf8ByteSize then .error .nameTooLong
  else store.walk (if path.root.isEmpty then store.working else []) path.names

/-- What is at a path. -/
def node (store : Store) (path : Path) : Except FileFault Node := do
  match (← store.resolve path).2 with
  | some node => return node
  | none => throw .missing

/-- A path that no file can have. -/
def hasNul (path : Path) : Bool :=
  path.toString.contains '\x00'

/-- The fault of an operation on a path. -/
def refuse {α : Type} (path : Path) (result : Except FileFault α) : Except Fault α :=
  result.mapError (.file · path.toString)

/-- What is at a path, if anything. That nothing can be there is no fault, except that a name is too
long or a directory on the way may not be passed through. -/
def find? (store : Store) (path : Path) : Except Fault (Option Node) :=
  if hasNul path then .ok none
  else
    match store.node path with
    | .ok node => .ok (some node)
    | .error .nameTooLong => .error (.file .nameTooLong path.toString)
    | .error .denied => .error (.file .denied path.toString)
    | .error _ => .ok none

/-- The bytes of a file. -/
def read (store : Store) (path : Path) : Except Fault (List UInt8) :=
  if hasNul path then .error .nulInPath
  else
    refuse path do
      match ← store.node path with
      | .file bytes => return bytes
      | .directory | .sealed => throw .isADirectory
      | .locked => throw .denied

/-- Write a file, over the one that is there. -/
def write (store : Store) (path : Path) (bytes : List UInt8) : Except Fault Store :=
  if hasNul path then .error .nulInPath
  else
    refuse path do
      match ← store.resolve path with
      | (_, some .directory) | (_, some .sealed) => throw .isADirectory
      | (_, some .locked) => throw .denied
      | (place, _) => return store.put place (.file bytes)

/-- Make one directory, where nothing is yet. -/
def makeDirectory (store : Store) (path : Path) : Except FileFault Store := do
  match ← store.resolve path with
  | (_, some _) => throw .alreadyExists
  | (place, none) => return store.put place .directory

/-- The outcome of trying to make a directory that may be there already. -/
def settle (store : Store) (path : Path) : FileFault → Except Fault Store
  | .alreadyExists =>
    match store.node path with
    | .ok .directory | .ok .sealed => .ok store
    | _ => .error (.file .alreadyExists path.toString)
  | fault => .error (.file fault path.toString)

/-- Make a directory that may be there already. -/
def ensureDirectory (store : Store) (path : Path) : Except Fault Store :=
  match store.makeDirectory path with
  | .ok store => .ok store
  | .error fault => settle store path fault

/-- Make the directory with these names, given in reverse, and those above it, so far as they are
missing. What was made stays even if the directory itself cannot be made. -/
def makeDirectoriesReversed (store : Store) (root : String) :
    List String → Store × Except Fault Unit
  | [] =>
    match store.ensureDirectory ⟨root, []⟩ with
    | .ok store => (store, .ok ())
    | .error fault => (store, .error fault)
  | name :: above =>
    let path : Path := ⟨root, (name :: above).reverse⟩
    match store.makeDirectory path with
    | .ok store => (store, .ok ())
    | .error .missing =>
      match makeDirectoriesReversed store root above with
      | (store, .ok ()) =>
        match store.ensureDirectory path with
        | .ok store => (store, .ok ())
        | .error fault => (store, .error fault)
      | failed => failed
    | .error fault =>
      match settle store path fault with
      | .ok store => (store, .ok ())
      | .error fault => (store, .error fault)

/-- Make a directory and those above it, so far as they are missing. -/
def makeDirectories (store : Store) (path : Path) : Store × Except Fault Unit :=
  if hasNul path then (store, .error .nulInPath)
  else store.makeDirectoriesReversed path.root path.names.reverse

end Store

end Tabstave
