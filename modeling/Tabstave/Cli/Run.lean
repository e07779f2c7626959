import Tabstave.Cli.Arguments
import Tabstave.Cli.Help
import Tabstave.Cli.Session
import Tabstave.Document.Source
import Tabstave.Files.NamePattern.Fill
import Tabstave.Settings.Config

/-!
# Running the commands

`run` carries out a command line on a file system. What a command cannot do because of its source,
its directory or its output it logs, and ends with exit code 1; mistakes in the command line end
with 2. A fault in the configuration file or in its log level is not caught: it ends the run by
itself.

What a command puts out may be too long for the memory that there is.
-/

namespace Tabstave.Cli

/-- How a run ends. -/
inductive Ending
  | exit (code : Nat)
  /-- A fault that nothing catches. -/
  | escaped (fault : Fault)

/-- The version of the program. -/
def version : String :=
  "0.3.0"

/-- A position on the command line: a number, or nothing where a number was due. -/
abbrev Position := Option Int × Option Int

namespace Position

/-- A number, or the empty list in place of one. -/
def showPart (n : Option Int) : List Char :=
  match n with
  | some n => Json.renderInt n
  | none => ['[', ']']

/-- Whether a number can be written out, which those with too many digits cannot. -/
def isShown (n : Option Int) : Bool :=
  n.all fun n ↦ n.natAbs < Nat.pow 10 Number.maxDigits

/-- Refuse a position that cannot be written out. -/
def checkShown (position : Position) : Except Fault Unit :=
  if isShown position.1 && isShown position.2 then .ok () else .error .numberTooLong

/-- A position in a message. -/
def describe (position : Position) : String :=
  "CursorLocation(line=" ++ String.ofList (showPart position.1) ++ ", column=" ++
    String.ofList (showPart position.2) ++ ")"

/-- A position as JSON. -/
def toJson (position : Position) : List Char :=
  "\x7b\"line\": ".toList ++ showPart position.1 ++ ", \"column\": ".toList ++ showPart position.2 ++
    ['\x7d']

/-- The cursor at a position. -/
def ofSource (source : List Char) (position : Position) (editor : Bool) : Except Fault Position :=
  if editor then
    match position with
    | (none, _) => .error (.unordered "<=" "int" "list")
    | (_, none) => .error (.cannotSubtract "list" "int")
    | (some line, some column) =>
      let cursor := Cursor.ofPosition source line column true
      .ok (some cursor.line, some cursor.column)
  else .ok position

/-- Carry a position over to the expanded text. -/
def locate (outcome : Document.Outcome) (position : Position) : Except Fault Position :=
  if !outcome.shortForm then .ok position
  else
    match position with
    | (none, _) => .error (.cannotSubtract "list" "int")
    | (some line, none) =>
      if (outcome.lineMap.entry? line).isSome then .error (.cannotExtendList "int") else .ok position
    | (some line, some column) =>
      let cursor := outcome.locate ⟨line, column⟩
      .ok (some cursor.line, some cursor.column)

end Position

/-- The source of a command; the command line has been refused if there is none. -/
def Arguments.sourcePath (arguments : Arguments) : Path :=
  arguments.source.getD (Path.ofString "")

/-- Make the directory for the output, if one is asked for. -/
def prepareOutput (arguments : Arguments) (session : Session) :
    Session × Except Fault Bool :=
  match arguments.outputDir with
  | .value directory =>
    match session.store.makeDirectories directory with
    | (store, .ok ()) =>
      ({ session with store }.log .info ("Output directory: " ++ directory.toString), .ok true)
    | (store, .error (.file fault path)) =>
      ({ session with store }.log .error
        ("Failed to create output directory: " ++ (Fault.file fault path).message), .ok false)
    | (store, .error fault) => ({ session with store }, .error fault)
  | _ => (session, .ok true)

/-- Read and preprocess the source. There is no outcome if the source cannot be used. -/
def loadSource (arguments : Arguments) (config : Value) (session : Session) :
    Session × Except Fault (Option (List Char × Document.Outcome)) :=
  match Config.options config arguments.shortForm with
  | .error fault => (session, .error fault)
  | .ok options =>
    let path := arguments.sourcePath
    let session := session.log .info ("Reading source file: " ++ path.toString)
    match Document.load session.store path options with
    | .error fault =>
      if Document.isSourceFault fault then (session.log .error fault.message, .ok none)
      else (session, .error fault)
    | .ok source =>
      match Document.Outcome.ofBuffer source (some path.name) options session.clock with
      | .error fault => (session, .error fault)
      | .ok outcome =>
        let session :=
          if outcome.shortForm then
            session.log .info ("Rewrote short-form source: " ++ toString outcome.sourceLineCount ++
              " lines -> " ++ toString outcome.outputLineCount ++ " lines")
          else session.log .debug "Source is not short-form, passing through unchanged"
        (session, .ok (some (source, outcome)))

section Memory

variable (memory : Memory)

/-- The path of the output in a directory. -/
def outputPath (command : Command) (arguments : Arguments) (directory : Path) :
    Except Fault Path :=
  let pattern := match arguments.outputFilename with
    | .absent => some command.outputFilename
    | .value pattern => some pattern
    | .nothing => none
  match pattern with
  | none => .error (.noMember "list" "format")
  | some pattern => do
    let name ← NamePattern.fill memory [("stem", arguments.sourcePath.stem)] pattern
    return directory.join (Path.ofString name)

/-- Put out the expanded text. -/
def emitText (arguments : Arguments) (outcome : Document.Outcome) (session : Session) :
    Session × Except Fault Unit :=
  match arguments.outputDir with
  | .value directory =>
    match outputPath memory .preprocess arguments directory with
    | .error fault => (session, .error fault)
    | .ok path =>
      match session.store.writeText path outcome.text with
      | .error fault => (session, .error fault)
      | .ok store =>
        let session := { session with store }.log .info ("Output written to: " ++ path.toString)
        if arguments.quiet then (session, .ok ())
        else
          (session.printLine ("Preprocessed source written to: " ++ path.toString).toList, .ok ())
  | _ =>
    let session := session.print outcome.text
    if outcome.text.isEmpty || outcome.text.getLast? = some '\n' then (session, .ok ())
    else (session.print ['\n'], .ok ())

/-- The settings for writing reports. -/
def reportWriter (arguments : Arguments) (config : Value) : Except Fault Json.Writer := do
  let output ← config.getText "output" (.dict [])
  let prettyPrint ← output.getText "pretty_print" (.bool true)
  let indent ← output.getText "indent_size" (.int 2)
  let includeKinds ← output.getText "include_kinds" (.bool true)
  return {
    prettyPrint := prettyPrint.isTruthy
    indent
    includeKinds := includeKinds.isTruthy
    includeUnshifted := !arguments.changedOnly }

/-- Put out the line map report. -/
def emitReport (arguments : Arguments) (config : Value) (outcome : Document.Outcome)
    (session : Session) : Session × Except Fault Unit :=
  match reportWriter arguments config with
  | .error fault => (session, .error fault)
  | .ok writer =>
    match arguments.outputDir with
    | .value directory =>
      match outputPath memory .lineMap arguments directory with
      | .error fault => (session, .error fault)
      | .ok path =>
        match writer.writeTo memory outcome.report session.store path with
        | (store, .error fault) => ({ session with store }, .error fault)
        | (store, .ok _) =>
          let session := { session with store }
          if arguments.quiet then (session, .ok ())
          else
            let session := session.printLine ("Line map written to: " ++ path.toString).toList
            (session.printLine
              ("Execution time: ".toList ++ outcome.seconds.fixedText 4 ++ " seconds".toList), .ok ())
    | _ =>
      match writer.write memory outcome.report with
      | .error fault => (session, .error fault)
      | .ok text => (session.printLine text, .ok ())

/-- The position that the arguments give and the one that it is carried over to, if both can be
written. -/
def carriedPosition (arguments : Arguments) (source : List Char) (outcome : Document.Outcome) :
    Except Fault (Position × Position) := do
  let cursor ← Position.ofSource source (arguments.line.get?, arguments.column.get?)
    arguments.editorPosition
  let located ← Position.locate outcome cursor
  cursor.checkShown
  located.checkShown
  return (cursor, located)

/-- Put out the position in the expanded text. -/
def emitPosition (arguments : Arguments) (source : List Char) (outcome : Document.Outcome)
    (session : Session) : Session × Except Fault Unit :=
  match carriedPosition arguments source outcome with
  | .error fault => (session, .error fault)
  | .ok (cursor, located) =>
    let session := session.log .debug
      ("Mapped cursor " ++ cursor.describe ++ " -> " ++ located.describe)
    (session.printLine located.toJson, .ok ())

/-- What a command puts out once its source is read. What it has done by the time of a fault stays
done. -/
def emit (command : Command) (arguments : Arguments) (config : Value) (source : List Char)
    (outcome : Document.Outcome) (session : Session) : Session × Except Fault Unit :=
  match command with
  | .preprocess => emitText memory arguments outcome session
  | .lineMap => emitReport memory arguments config outcome session
  | .mapCursor => emitPosition arguments source outcome session

/-- How the log announces that a command failed. -/
def Command.failure : Command → String
  | .preprocess => "Preprocessing failed: "
  | .lineMap => "Line map generation failed: "
  | .mapCursor => "Cursor mapping failed: "

/-- Log a fault that ends a command. -/
def fail (command : Command) (fault : Fault) (session : Session) : Session × Ending :=
  (session.log .error (command.failure ++ fault.message), .exit 1)

/-- Carry out a command with its configuration. -/
def perform (command : Command) (arguments : Arguments) (config : Value) (session : Session) :
    Session × Ending :=
  match loadSource arguments config session with
  | (session, .error fault) => fail command fault session
  | (session, .ok none) => (session, .exit 1)
  | (session, .ok (some (source, outcome))) =>
    match emit memory command arguments config source outcome session with
    | (session, .ok ()) => (session, .exit 0)
    | (session, .error fault) => fail command fault session

/-- Carry out a command: make its directory, load its configuration, and put out what it is for. -/
def handle (command : Command) (arguments : Arguments) (session : Session) : Session × Ending :=
  match prepareOutput arguments session with
  | (session, .error fault) => (session, .escaped fault)
  | (session, .ok false) => (session, .exit 1)
  | (session, .ok true) =>
    match Config.load session.store arguments.config.get? with
    | .error fault => (session, .escaped fault)
    | .ok config => perform memory command arguments config session

/-- The rank below which messages are left out: as much as possible is logged if asked for, only
errors in a quiet run, and else what the configuration says, which has to say something in any case.
-/
def threshold (arguments : Arguments) (config : Value) : Except Fault Nat := do
  if arguments.verbose then return LogLevel.debug.rank
  let level ← LogLevel.configured config
  if arguments.quiet then return LogLevel.error.rank
  LogLevel.threshold level

/-- Carry out a command from its command line: set up the log, then do the work. -/
def start (command : Command) (arguments : Arguments) (session : Session) : Session × Ending :=
  let prepared := do threshold arguments (← Config.load session.store arguments.config.get?)
  match prepared with
  | .error fault => (session, .escaped fault)
  | .ok threshold => handle memory command arguments { session with threshold }

/-- The help on a command, or on the program as a whole. -/
def helpPage (command : Option Command) : String :=
  Help.page <| match command with
    | none => Help.mainLines
    | some .preprocess => Help.preprocessLines
    | some .lineMap => Help.lineMapLines
    | some .mapCursor => Help.mapCursorLines

/-- The name of the program, followed by the word for a command. -/
def fullName (command : Option Command) : String :=
  match command with
  | none => programName
  | some command => programName ++ " " ++ command.word

/-- Carry out a command line. -/
def run (words : List String) (store : Store) (clock : Document.Clock) : Session × Ending :=
  let session : Session := { store, clock }
  match Invocation.ofWords words with
  | .run command arguments => start memory command arguments session
  | .help command => (session.print (helpPage command).toList, .exit 0)
  | .version => (session.printLine (programName ++ " " ++ version).toList, .exit 0)
  | .usageError command message =>
    let line := (fullName command ++ ": error: " ++ message).toList
    ({ session with logged := Text.splitFeeds line }, .exit 2)

end Memory

end Tabstave.Cli
