import Tabstave.Document.Name
import Tabstave.Files.Store
import Tabstave.Json.Writer
import Tabstave.Stave.Expansion

/-!
# Preprocessing a buffer

`Outcome.ofBuffer` decides from the name of a buffer and from the options whether it is in short
form, expands it or lets it through, and notes how many lines went in and came out and how long it
took by the given clock. `Outcome.report` turns the outcome into the data of a line map report.

A report is written to a file only after all of its text is there, so one that cannot be written as
JSON leaves the file as it was.
-/

namespace Tabstave

namespace Document

/-- What came of preprocessing a buffer. -/
structure Outcome where
  /-- The name of the buffer, if it has one. -/
  fileName : Option String
  shortForm : Bool
  text : List Char
  lineMap : LineMap := []
  sourceLineCount : Nat := 0
  outputLineCount : Nat := 0
  seconds : Binary64 := .zero false
  /-- The expansion that cursors are carried over by. -/
  expansion : Option Stave.Expansion := none
  deriving DecidableEq

/-- Carry a cursor of the source over to the text. -/
def Outcome.locate (outcome : Outcome) (cursor : Cursor) : Cursor :=
  match outcome.expansion with
  | some expansion => expansion.locate cursor
  | none => cursor

/-- The readings of a clock that are still to come; when they are used up it stands at zero. -/
abbrev Clock := List Binary64

/-- The next reading of a clock, and the readings after it. -/
def Clock.read : Clock → Binary64 × Clock
  | [] => (.zero false, [])
  | reading :: rest => (reading, rest)

/-- The time between two readings, to four decimals. -/
def elapsed (start stop : Binary64) : Binary64 :=
  (stop.sub start).roundTo 4

/-- Whether a source is taken as short form: as demanded, or by its name. -/
def isShortForm (demanded : Option Bool) (name : Option String) (extensions : Value) :
    Except Fault Bool :=
  match demanded with
  | some shortForm => .ok shortForm
  | none => hasName name extensions

/-- Expand a source or let it through, as demanded or by its name. -/
def expandNamed (source : List Char) (name : Option String) (extensions : Value)
    (demanded : Option Bool) : Except Fault Stave.Expansion := do
  return Stave.expandIf (← isShortForm demanded name extensions) source

/-- Preprocess a buffer between two readings of the clock. -/
def Outcome.ofBuffer (source : List Char) (name : Option String) (options : Options) (clock : Clock) :
    Except Fault Outcome := do
  let (start, clock) := clock.read
  let demanded := if options.forceShortForm then some true else none
  let expansion ← expandNamed source name options.shortFormExtensions demanded
  let (stop, _) := clock.read
  return {
    fileName := name
    shortForm := expansion.shortForm
    text := expansion.text
    lineMap := expansion.lineMap
    sourceLineCount := expansion.lineMap.length
    outputLineCount := expansion.lineCount
    seconds := elapsed start stop
    expansion := some expansion }

/-- An entry of a line map as the data of a report. -/
def reportEntry (entry : LineMap.Entry) : Value :=
  .dict [(.str "original_line", .int entry.sourceLine),
    (.str "processed_line", .int entry.expandedLine),
    (.str "column_offset", .int entry.columnOffset),
    (.str "kind", .lineKind entry.kind)]

/-- The data of a line map report. -/
def Outcome.report (outcome : Outcome) : Value :=
  .dict [(.str "file_name", (outcome.fileName.map Value.str).getD .null),
    (.str "short_form", .bool outcome.shortForm),
    (.str "source_line_count", .int outcome.sourceLineCount),
    (.str "output_line_count", .int outcome.outputLineCount),
    (.str "execution_time_seconds", .float outcome.seconds),
    (.str "lines", .list (outcome.lineMap.map reportEntry))]

end Document

/-! ### Writing to files -/

/-- Write a text to a file in UTF-8. -/
def Store.writeText (store : Store) (path : Path) (text : List Char) : Except Fault Store :=
  store.write path (Text.Utf8.encode text)

/-- Write data as JSON to a file. The files are answered as they are then, whether or not it went
well. -/
def Json.Writer.writeTo (writer : Json.Writer) (memory : Memory) (data : Value) (store : Store)
    (path : Path) : Store × Except Fault (List Char) :=
  match writer.write memory data with
  | .error fault => (store, .error fault)
  | .ok text =>
    match store.writeText path text with
    | .error fault => (store, .error fault)
    | .ok store => (store, .ok text)

/-- Write data as JSON to a file, and answer the files only if it went well. -/
def Json.Writer.writeFile (writer : Json.Writer) (memory : Memory) (data : Value) (store : Store)
    (path : Path) : Except Fault (List Char × Store) :=
  match writer.writeTo memory data store path with
  | (store, .ok text) => .ok (text, store)
  | (_, .error fault) => .error fault

/-- Write the line map report of an outcome to a file. -/
def Document.Outcome.writeReport (outcome : Document.Outcome) (memory : Memory) (prettyPrint : Bool)
    (store : Store) (path : Path) : Except Fault Store := do
  let writer : Json.Writer := { prettyPrint }
  return (← writer.writeFile memory outcome.report store path).2

end Tabstave
