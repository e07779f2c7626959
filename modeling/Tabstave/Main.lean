import Tabstave.Cli.Run

/-!
# The program

`Cli.run` says what a command line does to a file system; the rest is to look at the file system
before and to change it after. Only the places that the command line names are looked at, each with
the directories that lead to it.
-/

namespace Tabstave.Program

/-- The path of a place, for the operating system. -/
def systemPath (place : Place) : String :=
  "/" ++ String.intercalate "/" place

/-- Look up what is at a place that may not be opened. Nothing leads on from a file, and a directory
that may not be passed through refuses it. -/
def lookBehind (place : Place) : IO Node := do
  try
    let _ ← IO.FS.readBinFile (systemPath (place ++ [".."]))
    return .directory
  catch
    | .inappropriateType _ code _ =>
      return if code.toNat = FileFault.number .isADirectory then .directory else .locked
    | .permissionDenied _ _ _ => return .sealed
    | _ => return .directory

/-- Look up what is at a place. What is there and is no file counts as a directory. -/
def look (place : Place) : IO (Option Node) := do
  try
    return some (.file (← IO.FS.readBinFile (systemPath place)).toList)
  catch
    | .noFileOrDirectory _ _ _ => return none
    | .permissionDenied _ _ _ => return some (← lookBehind place)
    | _ => return some .directory

/-- Look at the places that names lead through, as far as there is something. -/
def gather (store : Store) (place : Place) : List String → IO Store
  | [] => return store
  | name :: rest => do
    let place := if name = ".." then place.dropLast else place ++ [name]
    match ← look place with
    | some node => gather (store.put place node) place rest
    | none => return store

/-- Look at the places on a path. -/
def gatherPath (store : Store) (path : Path) : IO Store :=
  gather store (if path.root.isEmpty then store.working else []) path.names

/-- The paths that a command line names. -/
def pathsOf (words : List String) : List Path :=
  match Cli.Invocation.ofWords words with
  | .run command arguments =>
    let output := match arguments.outputDir with
      | .value directory =>
        directory :: (Cli.outputPath .usual command arguments directory).toOption.toList
      | _ => []
    arguments.source.toList ++ arguments.config.get?.toList ++ output
  | _ => []

/-- What is at the places that a command line names. -/
def storeFor (words : List String) : IO Store := do
  let working := (Path.ofString (toString (← IO.currentDir))).names
  let store ← gather ⟨[], working⟩ [] working
  (pathsOf words).foldlM gatherPath store

/-- Make the file system what the store says, where it is not so already. -/
def save (before after : Store) : IO Unit := do
  for (place, node) in after.nodes do
    if before.get? place != some node then
      match node with
      | .directory => IO.FS.createDir (systemPath place)
      | .file bytes => IO.FS.writeBinFile (systemPath place) ⟨bytes.toArray⟩
      | .sealed | .locked => pure ()

/-- The reading of the clock, in seconds. -/
def readClock : IO Binary64 := do
  return .ofQuotient false (← IO.monoNanosNow) 1000000000

end Tabstave.Program

open Tabstave

/-- Carry out the command line. A first run that changes nothing finds out how long it takes. -/
def main (words : List String) : IO UInt32 := do
  let store ← Program.storeFor words
  let start ← Program.readClock
  let _ ← IO.lazyPure fun _ ↦ (Cli.run .usual words store []).1.printed.length
  let stop ← Program.readClock
  let (session, ending) := Cli.run .usual words store [start, stop]
  Program.save store session.store
  IO.print (String.ofList session.printed)
  for line in session.logged do
    IO.eprintln (String.ofList line)
  match ending with
  | .exit code => return code.toUInt32
  | .escaped fault =>
    IO.eprintln fault.message
    return 1
