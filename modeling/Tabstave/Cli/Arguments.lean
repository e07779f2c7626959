import Tabstave.Cli.Option
import Tabstave.Files.Path
import Tabstave.Number.Reading
import Tabstave.Text.Quoted

/-!
# Arguments of a command

The words of a command line are gone through from left to right. The first word that is no option
names the source; an option that takes a value takes the rest of its own word or else the next word,
if that is no option; short flags may be joined in one word. Words that find no use are kept as
extras.

A value that consists of two dashes after an equals sign counts as no value at all, though as given.
-/

namespace Tabstave.Cli

/-- The commands. -/
inductive Command
  | preprocess
  | lineMap
  | mapCursor
  deriving DecidableEq, Repr

/-- The name of the program. -/
def programName : String :=
  "vextab-preview"

/-- The word for a command. -/
def Command.word : Command → String
  | .preprocess => "preprocess"
  | .lineMap => "line-map"
  | .mapCursor => "map-cursor"

/-- The command with a word. -/
def Command.ofWord? (word : String) : Option Command :=
  [Command.preprocess, .lineMap, .mapCursor].find? (·.word == word)

/-- The options of a command, in the order in which messages list them. -/
def Command.options (command : Command) : List OptionSpec :=
  let output : List OptionSpec :=
    [⟨.outputDir, ["-o", "--output-dir"], true⟩, ⟨.outputFilename, ["--output-filename"], true⟩]
  [⟨.help, ["-h", "--help"], false⟩, ⟨.shortForm, ["--short-form"], false⟩] ++
    (if command = .mapCursor then [] else output) ++
    [⟨.config, ["--config"], true⟩, ⟨.verbose, ["-v", "--verbose"], false⟩,
      ⟨.quiet, ["-q", "--quiet"], false⟩] ++
    match command with
    | .preprocess => []
    | .lineMap => [⟨.changedOnly, ["--changed-only"], false⟩]
    | .mapCursor =>
      [⟨.line, ["--line"], true⟩, ⟨.column, ["--column"], true⟩,
        ⟨.editorPosition, ["--editor-position"], false⟩]

/-- The options of the program as a whole. -/
def programOptions : List OptionSpec :=
  [⟨.help, ["-h", "--help"], false⟩, ⟨.version, ["--version"], false⟩]

/-- The pattern of output names where none is given. -/
def Command.outputFilename : Command → String
  | .lineMap => "\x7bstem\x7d-line-map.json"
  | _ => "\x7bstem\x7d.vt"

/-- The value of an option. -/
inductive Given (α : Type)
  | absent
  | value (a : α)
  /-- The option was given, but with no value. -/
  | nothing
  deriving DecidableEq, Repr

namespace Given

/-- The value, if there is one. -/
def get? {α : Type} : Given α → Option α
  | .value a => some a
  | _ => none

/-- Whether the option was given. -/
def isGiven {α : Type} : Given α → Bool
  | .absent => false
  | _ => true

end Given

/-- What the command line of a command says. -/
structure Arguments where
  source : Option Path := none
  shortForm : Bool := false
  outputDir : Given Path := .absent
  outputFilename : Given String := .absent
  config : Given Path := .absent
  verbose : Bool := false
  quiet : Bool := false
  changedOnly : Bool := false
  line : Given Int := .absent
  column : Given Int := .absent
  editorPosition : Bool := false
  /-- The words without a use. -/
  extras : List String := []
  deriving DecidableEq, Repr

/-- Why the words of a command line are not gone through to the end. -/
inductive Halt
  /-- Help was asked for. -/
  | help
  | ambiguous (word : String) (names : List String)
  | missingValue (spec : OptionSpec)
  | ignoredValue (spec : OptionSpec) (value : String)
  | badNumber (spec : OptionSpec) (value : String)
  | missing (names : List String)
  deriving DecidableEq, Repr

/-- The wording of a halt that is a mistake. -/
def Halt.message : Halt → String
  | .help => ""
  | .ambiguous word names =>
    "ambiguous option: " ++ word ++ " could match " ++ String.intercalate ", " names
  | .missingValue spec => "argument " ++ spec.display ++ ": expected one argument"
  | .ignoredValue spec value =>
    "argument " ++ spec.display ++ ": ignored explicit argument " ++ Text.showString value
  | .badNumber spec value =>
    "argument " ++ spec.display ++ ": invalid int value: " ++ Text.showString value
  | .missing names => "the following arguments are required: " ++ String.intercalate ", " names

/-- The value of an option that takes a number. -/
def numberOf (spec : OptionSpec) (value : String) : Except Halt Int :=
  match Number.int? value.toList with
  | some n => .ok n
  | none => .error (.badNumber spec value)

/-- A value, unless it consists of two dashes. -/
def givenOf {α : Type} (value : String) (read : String → Except Halt α) : Except Halt (Given α) :=
  if value = "--" then .ok .nothing else (read value).map .value

/-- Take an option into account. -/
def Arguments.set (arguments : Arguments) (spec : OptionSpec) (value : String) :
    Except Halt Arguments :=
  match spec.setting with
  | .help => .error .help
  | .version => .ok arguments
  | .shortForm => .ok { arguments with shortForm := true }
  | .verbose => .ok { arguments with verbose := true }
  | .quiet => .ok { arguments with quiet := true }
  | .changedOnly => .ok { arguments with changedOnly := true }
  | .editorPosition => .ok { arguments with editorPosition := true }
  | .outputDir => do
    return { arguments with outputDir := ← givenOf value fun value ↦ .ok (Path.ofString value) }
  | .outputFilename => do
    return { arguments with outputFilename := ← givenOf value fun value ↦ .ok value }
  | .config => do
    return { arguments with config := ← givenOf value fun value ↦ .ok (Path.ofString value) }
  | .line => do return { arguments with line := ← givenOf value (numberOf spec) }
  | .column => do return { arguments with column := ← givenOf value (numberOf spec) }

/-- The options that a word holds, with their values. The last one may need the next word, which is
then taken. -/
def takeOptions (options : List OptionSpec) (fuel : Nat) (spec : OptionSpec) (name : String)
    (explicit : Option String) (rest : List (String × Reading)) :
    Except Halt (List (OptionSpec × String) × List (String × Reading)) :=
  match fuel, explicit with
  | 0, _ => .ok ([], rest)
  | _ + 1, none =>
    if spec.takesValue then
      match rest with
      | (value, .argument) :: rest => .ok ([(spec, value)], rest)
      | _ => .error (.missingValue spec)
    else .ok ([(spec, "")], rest)
  | fuel + 1, some value =>
    if spec.takesValue then .ok ([(spec, value)], rest)
    else
      match value.toList with
      | [] => .error (.ignoredValue spec value)
      | letter :: more =>
        if "--".toList.isPrefixOf name.toList then .error (.ignoredValue spec value)
        else
          let next := String.ofList ['-', letter]
          match (namesOf options).lookup next with
          | none => .error (.ignoredValue spec value)
          | some nextSpec => do
            let explicit := if more.isEmpty then none else some (String.ofList more)
            let (taken, rest) ← takeOptions options fuel nextSpec next explicit rest
            return ((spec, "") :: taken, rest)

/-- Take several options into account, one after the other. -/
def Arguments.setAll (arguments : Arguments) : List (OptionSpec × String) → Except Halt Arguments
  | [] => .ok arguments
  | (spec, value) :: rest => do (← arguments.set spec value).setAll rest

/-- Keep a word that has no use. -/
def Arguments.addExtra (arguments : Arguments) (word : String) : Arguments :=
  { arguments with extras := arguments.extras ++ [word] }

/-- Go through the words of a command. Dashes around the source go with it. -/
def goThrough (options : List OptionSpec) (fuel : Nat) (arguments : Arguments) :
    List (String × Reading) → Except Halt Arguments
  | [] => .ok arguments
  | (word, reading) :: rest =>
    match fuel with
    | 0 => .ok arguments
    | fuel + 1 =>
      match reading with
      | .option none _ _ => goThrough options fuel (arguments.addExtra word) rest
      | .option (some spec) name explicit => do
        let (taken, rest) ← takeOptions options (word.length + 1) spec name explicit rest
        goThrough options fuel (← arguments.setAll taken) rest
      | .argument =>
        if arguments.source.isNone then
          let rest := match rest with
            | (_, .dashes) :: rest => rest
            | rest => rest
          goThrough options fuel { arguments with source := some (Path.ofString word) } rest
        else goThrough options fuel (arguments.addExtra word) rest
      | .dashes =>
        match arguments.source, rest with
        | none, (word, .argument) :: rest =>
          goThrough options fuel { arguments with source := some (Path.ofString word) } rest
        | _, rest => goThrough options fuel (arguments.addExtra word) rest

/-- The names of what is required and was not given. -/
def Arguments.missing (arguments : Arguments) (command : Command) : List String :=
  (if arguments.source.isNone then ["source"] else []) ++
    if command = .mapCursor then
      (if arguments.line.isGiven then [] else ["--line"]) ++
        (if arguments.column.isGiven then [] else ["--column"])
    else []

/-- Read the words of a command. -/
def Arguments.ofWords (command : Command) (words : List String) : Except Halt Arguments := do
  let options := command.options
  let readings ← match readWords Text.isDecimalDigit options words with
    | .ok readings => pure readings
    | .error (word, names) => throw (.ambiguous word names)
  let arguments ← goThrough options (readings.length + 1) {} readings
  let missing := arguments.missing command
  if missing.isEmpty then return arguments else throw (.missing missing)

/-- What a whole command line asks for. -/
inductive Invocation
  | run (command : Command) (arguments : Arguments)
  /-- Help on a command, or on the program as a whole. -/
  | help (command : Option Command)
  | version
  /-- A mistake, in the words of a command or of the program as a whole. -/
  | usageError (command : Option Command) (message : String)
  deriving DecidableEq, Repr

/-- Read the words of a command line that starts with the word for a command. -/
def Invocation.ofCommand (command : Command) (words : List String) : Invocation :=
  match Arguments.ofWords command words with
  | .error .help => .help (some command)
  | .error halt => .usageError (some command) halt.message
  | .ok arguments =>
    if !arguments.extras.isEmpty then
      .usageError none ("unrecognized arguments: " ++ String.intercalate " " arguments.extras)
    else if arguments.verbose && arguments.quiet then
      .usageError none "--verbose and --quiet cannot be used together"
    else .run command arguments

/-- Read a command line. One that starts with anything else than a command or an option of the
program is meant for the first command. -/
def Invocation.ofWords (words : List String) : Invocation :=
  match words with
  | [] => .help none
  | first :: rest =>
    let (command, rest) := match Command.ofWord? first with
      | some command => (some command, rest)
      | none =>
        if ((namesOf programOptions).lookup first).isSome then (none, rest)
        else (some .preprocess, words)
    match readWords Text.isDecimalDigit programOptions words with
    | .error (word, names) => .usageError none (Halt.ambiguous word names).message
    | .ok _ =>
      match command with
      | some command => .ofCommand command rest
      | none => if first = "--version" then .version else .help none

end Tabstave.Cli
