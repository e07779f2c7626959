import Tabstave.Cli.Run
import Tabstave.Proofs.Cli.Arguments
import Tabstave.Proofs.Document.Source

/-!
# What a run comes to

A command builds its options, reads its source and puts out what came of it in steps of its own,
with an answer of its own to every fault. A run that prints to the standard output goes through
three of them: it sets up the configuration and the log (`Starts.exists_run_eq`), it reads the
source (`exists_loadSource`), and it puts something out (`exists_emitPosition`, `exists_emitText`,
`emitReport_eq`). Put together, each command comes to what the library does with the same options:
`run_mapCursor`, `run_preprocess` and `run_lineMap`.

Cursors are the exception: one whose numbers have too many digits cannot be written, though the
library gives it.
-/

namespace Tabstave

/-- The numbers of a cursor have no more digits than can be written. -/
structure Cursor.IsShown (cursor : Cursor) : Prop where
  line : cursor.line.natAbs < Nat.pow 10 Number.maxDigits
  column : cursor.column.natAbs < Nat.pow 10 Number.maxDigits

/-- A cursor as a JSON document. -/
def Cursor.toJson (cursor : Cursor) : Json :=
  .obj [("line", .int cursor.line), ("column", .int cursor.column)]

namespace Cli

/-- Logging does not read the clock. -/
@[simp] theorem Session.clock_log (session : Session) (level : LogLevel) (message : String) :
    (session.log level message).clock = session.clock := by
  unfold log
  split <;> rfl

/-! ### Runs -/

/-- A command line is understood as a command with arguments, and its configuration and the log can
be set up. -/
structure Starts (words : List String) (store : Store) (config : Value) (command : Command)
    (arguments : Arguments) : Prop where
  understood : Invocation.ofWords words = .run command arguments
  loaded : Config.load store arguments.config.get? = .ok config
  logging : ∃ rank, threshold arguments config = .ok rank

theorem load_defaults {arguments : Arguments} (noConfig : arguments.config.get? = none)
    (store : Store) : Config.load store arguments.config.get? = .ok (.dict Config.defaults) := by
  rw [noConfig]
  rfl

/-- Without a configuration the log can be set up. -/
theorem exists_threshold_defaults (arguments : Arguments) :
    ∃ rank, threshold arguments (.dict Config.defaults) = .ok rank := by
  have level : LogLevel.configured (.dict Config.defaults) = .ok (.str "INFO") := rfl
  rw [threshold, level]
  cases arguments.verbose with
  | true => exact ⟨_, rfl⟩
  | false =>
    cases arguments.quiet with
    | true => exact ⟨_, rfl⟩
    | false => exact ⟨_, rfl⟩

/-- Without a configuration a command starts with the usual one. -/
theorem starts_of_noConfig {words : List String} {command : Command} {arguments : Arguments}
    (understood : Invocation.ofWords words = .run command arguments)
    (noConfig : arguments.config.get? = none) (store : Store) :
    Starts words store (.dict Config.defaults) command arguments :=
  ⟨understood, load_defaults noConfig store, exists_threshold_defaults arguments⟩

/-- A run has printed a text and ended well. -/
def Prints (ended : Session × Ending) (text : List Char) : Prop :=
  ended.2 = .exit 0 ∧ ended.1.printed = text

/-- A run has failed and printed nothing. -/
def Fails (ended : Session × Ending) : Prop :=
  ended.2 = .exit 1 ∧ ended.1.printed = []

theorem Fails.ne_exit_zero {ended : Session × Ending} (fails : Fails ended) :
    ended.2 ≠ .exit 0 := by
  rw [fails.1]
  rintro ⟨⟩

/-- A command line without a directory carries out its command. -/
theorem Starts.exists_run_eq {words : List String} {store : Store} {config : Value}
    {command : Command} {arguments : Arguments}
    (starts : Starts words store config command arguments)
    (noDirectory : arguments.outputDir.get? = none) (memory : Memory) (clock : Document.Clock) :
    ∃ rank, run memory words store clock =
      perform memory command arguments config { store, clock, threshold := rank } := by
  obtain ⟨rank, logging⟩ := starts.logging
  refine ⟨rank, ?_⟩
  have noOutput (session : Session) : prepareOutput arguments session = (session, .ok true) := by
    rw [prepareOutput]
    cases directory : arguments.outputDir with
    | value path => rw [directory] at noDirectory; cases noDirectory
    | absent => rfl
    | nothing => rfl
  rw [run, starts.understood]
  simp only [start, starts.loaded, bind, Except.bind, logging, handle, noOutput]

/-! ### The source of a command -/

/-- Build the options and preprocess a file with them. -/
def preprocessFile (store : Store) (config : Value) (path : Path) (shortForm : Bool)
    (clock : Document.Clock) : Except Fault Document.Outcome := do
  Document.Outcome.ofFile store path (← Config.options config shortForm) clock

/-- Build the options and carry a position in a file over with them. -/
def carryOver (store : Store) (config : Value) (path : Path) (shortForm : Bool)
    (line column : Int) (editor : Bool) : Except Fault Cursor := do
  Document.locateInFile store path line column (← Config.options config shortForm) editor

/-- Build the options, preprocess a file with them, and write the report on what comes of it. -/
def reportText (memory : Memory) (store : Store) (config : Value) (arguments : Arguments)
    (clock : Document.Clock) : Except Fault (List Char) := do
  let outcome ← preprocessFile store config arguments.sourcePath arguments.shortForm clock
  (← reportWriter arguments config).write memory outcome.report

/-- The source of a command, with whether it is in short form. -/
def sourceForm (store : Store) (config : Value) (path : Path) (shortForm : Bool) :
    Except Fault (List Char × Bool) := do
  Document.readForm store path (← Config.options config shortForm)

/-- What comes of the source of a command. -/
def outcomeOf (path : Path) (clock : Document.Clock) (form : List Char × Bool) : Document.Outcome :=
  .ofForm form.1 (some path.name) (Document.elapsed clock.read.1 clock.read.2.read.1) form.2

section SourceForm

variable (store : Store) (config : Value) (path : Path) (shortForm : Bool)

theorem preprocessFile_eq (clock : Document.Clock) :
    preprocessFile store config path shortForm clock =
      (sourceForm store config path shortForm).map (outcomeOf path clock) := by
  rw [preprocessFile, sourceForm]
  cases Config.options config shortForm with
  | error fault => rfl
  | ok options => exact Document.ofFile_eq store path options clock

theorem carryOver_eq (line column : Int) (editor : Bool) :
    carryOver store config path shortForm line column editor =
      (sourceForm store config path shortForm).map fun form ↦
        (Stave.expandIf form.2 form.1).locate (Cursor.ofPosition form.1 line column editor) := by
  rw [carryOver, sourceForm]
  cases Config.options config shortForm with
  | error fault => rfl
  | ok options => exact Document.locateInFile_eq store path line column options editor

end SourceForm

/-! ### Faults of a command

Whatever goes wrong while a command puts something out goes wrong before it has printed or written
anything. -/

section Faults

variable {memory : Memory} {arguments : Arguments} {config : Value} {outcome : Document.Outcome}
  {session ended : Session} {fault : Fault}

theorem eq_of_emitText_error
    (failed : emitText memory arguments outcome session = (ended, .error fault)) :
    ended = session := by
  rw [emitText.eq_def] at failed
  split at failed
  · split at failed
    · cases failed; rfl
    split at failed
    · cases failed; rfl
    · dsimp only at failed
      split_ifs at failed <;> cases failed
  · dsimp only at failed
    split_ifs at failed <;> cases failed

theorem eq_of_writeTo_error {writer : Json.Writer} {data : Value} {store after : Store}
    {path : Path} (failed : writer.writeTo memory data store path = (after, .error fault)) :
    after = store := by
  rw [Json.Writer.writeTo] at failed
  split at failed
  · cases failed; rfl
  split at failed <;> cases failed
  rfl

theorem eq_of_emitReport_error
    (failed : emitReport memory arguments config outcome session = (ended, .error fault)) :
    ended = session := by
  rw [emitReport.eq_def] at failed
  split at failed
  · cases failed; rfl
  split at failed
  · split at failed
    · cases failed; rfl
    split at failed
    · next refused => cases failed; rw [eq_of_writeTo_error refused]
    · dsimp only at failed
      split_ifs at failed <;> cases failed
  · split at failed <;> cases failed
    rfl

theorem eq_of_emitPosition_error {source : List Char}
    (failed : emitPosition arguments source outcome session = (ended, .error fault)) :
    ended = session := by
  rw [emitPosition] at failed
  split at failed <;> cases failed
  rfl

/-- What ends with a fault has put out nothing before. -/
theorem eq_of_emit_error {command : Command} {source : List Char}
    (failed : emit memory command arguments config source outcome session = (ended, .error fault)) :
    ended = session := by
  cases command with
  | preprocess => exact eq_of_emitText_error failed
  | lineMap => exact eq_of_emitReport_error failed
  | mapCursor => exact eq_of_emitPosition_error failed

end Faults

section Perform

variable (command : Command) {arguments : Arguments} {config : Value} (session : Session)

variable (arguments config) in
/-- Loading the source prints and writes nothing, and gives what comes of it if anything does. -/
theorem exists_loadSource :
    ∃ session', session'.printed = session.printed ∧ session'.store = session.store ∧
      match sourceForm session.store config arguments.sourcePath arguments.shortForm with
      | .ok form => loadSource arguments config session =
          (session', .ok (some (form.1, outcomeOf arguments.sourcePath session.clock form)))
      | .error _ => loadSource arguments config session = (session', .ok none) ∨
          ∃ fault, loadSource arguments config session = (session', .error fault) := by
  rw [sourceForm]
  cases built : Config.options config arguments.shortForm with
  | error fault => exact ⟨session, rfl, rfl, .inr ⟨fault, by rw [loadSource, built]⟩⟩
  | ok options =>
    let reading := session.log .info
      ("Reading source file: " ++ arguments.sourcePath.toString)
    have printed : reading.printed = session.printed := Session.printed_log ..
    have store : reading.store = session.store := Session.store_log ..
    rw [loadSource, built]
    simp only [bind, Except.bind, Document.readForm, Session.store_log, Session.clock_log,
      Document.ofBuffer_eq]
    cases Document.load session.store arguments.sourcePath options with
    | error fault =>
      by_cases source : Document.isSourceFault fault
      · exact ⟨_, (Session.printed_log ..).trans printed, (Session.store_log ..).trans store,
          .inl (if_pos source)⟩
      · exact ⟨_, printed, store, .inr ⟨fault, if_neg source⟩⟩
    | ok source =>
      dsimp only
      cases Document.isShortForm _ (some arguments.sourcePath.name) options.shortFormExtensions with
      | error fault => exact ⟨_, printed, store, .inr ⟨fault, rfl⟩⟩
      | ok shortForm =>
        refine ⟨_, ?_, ?_, rfl⟩
        · split <;> exact (Session.printed_log ..).trans printed
        · split <;> exact (Session.store_log ..).trans store

variable (memory : Memory)

/-- A command without a source fails, with nothing printed or written. -/
theorem perform_of_error {fault : Fault} (failed : sourceForm session.store config
    arguments.sourcePath arguments.shortForm = .error fault) :
    (perform memory command arguments config session).2 = .exit 1 ∧
      (perform memory command arguments config session).1.printed = session.printed ∧
      (perform memory command arguments config session).1.store = session.store := by
  obtain ⟨session', printed, store, loaded⟩ := exists_loadSource arguments config session
  rw [failed] at loaded
  rcases loaded with loaded | ⟨fault, loaded⟩
  · rw [perform, loaded]
    exact ⟨rfl, printed, store⟩
  · rw [perform, loaded]
    exact ⟨rfl, (Session.printed_log ..).trans printed, (Session.store_log ..).trans store⟩

/-- A command with a source puts out what comes of it, or fails, with nothing printed or written. -/
theorem exists_perform_of_ok {form : List Char × Bool} (read : sourceForm session.store config
    arguments.sourcePath arguments.shortForm = .ok form) :
    ∃ session' : Session, session'.printed = session.printed ∧ session'.store = session.store ∧
      let emitted := emit memory command arguments config form.1
        (outcomeOf arguments.sourcePath session.clock form) session'
      (∀ ended, emitted = (ended, .ok ()) →
        perform memory command arguments config session = (ended, .exit 0)) ∧
        ∀ ended fault, emitted = (ended, .error fault) →
          (perform memory command arguments config session).2 = .exit 1 ∧
            (perform memory command arguments config session).1.printed = session.printed ∧
            (perform memory command arguments config session).1.store = session.store := by
  obtain ⟨session', printed, store, loaded⟩ := exists_loadSource arguments config session
  rw [read] at loaded
  refine ⟨session', printed, store, fun ended emitted ↦ ?_, fun ended fault emitted ↦ ?_⟩
  · rw [perform, loaded]
    simp only [emitted]
  · have same := eq_of_emit_error emitted
    subst same
    rw [perform, loaded]
    simp only [emitted]
    exact ⟨rfl, (Session.printed_log ..).trans printed, (Session.store_log ..).trans store⟩

end Perform

/-! ### Positions -/

/-- A cursor as a position on the command line. -/
def Position.ofCursor (cursor : Cursor) : Position :=
  (some cursor.line, some cursor.column)

namespace Position

theorem ofSource_eq (source : List Char) (line column : Int) (editor : Bool) :
    ofSource source (some line, some column) editor =
      .ok (ofCursor (.ofPosition source line column editor)) := by
  cases editor <;> rfl

theorem locate_outcomeOf (path : Path) (clock : Document.Clock) (form : List Char × Bool)
    (cursor : Cursor) :
    locate (outcomeOf path clock form) (ofCursor cursor) =
      .ok (ofCursor ((Stave.expandIf form.2 form.1).locate cursor)) := by
  obtain ⟨source, shortForm⟩ := form
  cases shortForm <;> rfl

theorem isShown_some (n : Int) :
    isShown (some n) = decide (n.natAbs < Nat.pow 10 Number.maxDigits) := by
  rw [isShown, Option.all_some]

theorem checkShown_of_isShown {cursor : Cursor} (shown : cursor.IsShown) :
    (ofCursor cursor).checkShown = .ok () := by
  rw [checkShown, ofCursor, isShown_some, isShown_some, decide_eq_true shown.line,
    decide_eq_true shown.column]
  rfl

theorem checkShown_of_not_isShown {cursor : Cursor} (long : ¬cursor.IsShown) :
    (ofCursor cursor).checkShown = .error .numberTooLong := by
  rw [checkShown, ofCursor, isShown_some, isShown_some]
  refine if_neg ?_
  rw [Bool.and_eq_true, decide_eq_true_eq, decide_eq_true_eq]
  exact fun ⟨line, column⟩ ↦ long ⟨line, column⟩

/-- A position is written as an object with two members. -/
theorem toJson_eq (position : Position) :
    position.toJson = '\x7b' :: Json.renderString "line" ++ [':', ' '] ++ showPart position.1 ++
      (',' :: ' ' :: Json.renderString "column" ++ [':', ' ']) ++ showPart position.2 ++
        ['\x7d'] := by
  have line : "\x7b\"line\": ".toList = '\x7b' :: Json.renderString "line" ++ [':', ' '] := by
    decide +kernel
  have column : ", \"column\": ".toList =
      ',' :: ' ' :: Json.renderString "column" ++ [':', ' '] := by
    decide +kernel
  unfold toJson
  rw [line, column]

theorem render_toJson (cursor : Cursor) :
    Json.render .compact 0 cursor.toJson =
      '\x7b' :: Json.renderString "line" ++ [':', ' '] ++ Json.renderInt cursor.line ++
        (',' :: ' ' :: Json.renderString "column" ++ [':', ' ']) ++ Json.renderInt cursor.column ++
          ['\x7d'] := by
  simp only [Cursor.toJson, Json.render, Json.renderMembers, Json.Layout.lineBreak,
    Json.Layout.separator, List.cons_append, List.append_assoc, List.nil_append, List.append_nil]

theorem toJson_ofCursor (cursor : Cursor) :
    (ofCursor cursor).toJson = Json.render .compact 0 cursor.toJson :=
  (toJson_eq _).trans (render_toJson cursor).symm

end Position

section Emit

variable {arguments : Arguments} {config : Value} {session : Session}

section Position

variable {line column : Int} (hline : arguments.line = .value line)
  (hcolumn : arguments.column = .value column) (path : Path) (clock : Document.Clock)
  (form : List Char × Bool) {given located : Cursor}
  (hgiven : given = Cursor.ofPosition form.1 line column arguments.editorPosition)
  (hlocated : located = (Stave.expandIf form.2 form.1).locate given)

include hline hcolumn hgiven hlocated

/-- The position is read and carried over; then the numbers are looked at. -/
theorem carriedPosition_eq :
    carriedPosition arguments form.1 (outcomeOf path clock form) = (do
      (Position.ofCursor given).checkShown
      (Position.ofCursor located).checkShown
      return (.ofCursor given, .ofCursor located)) := by
  have source : Position.ofSource form.1 (some line, some column) arguments.editorPosition =
      .ok (.ofCursor given) := hgiven ▸ Position.ofSource_eq ..
  have found : Position.locate (outcomeOf path clock form) (.ofCursor given) =
      .ok (.ofCursor located) := hlocated ▸ Position.locate_outcomeOf path clock form given
  rw [carriedPosition, hline, hcolumn]
  simp only [Given.get?, source, bind, Except.bind, found]

/-- The cursor that a position is carried over to is printed, if it can be. -/
theorem exists_emitPosition (shown : given.IsShown) (shown' : located.IsShown) :
    ∃ ended, emitPosition arguments form.1 (outcomeOf path clock form) session = (ended, .ok ()) ∧
      ended.printed = session.printed ++ (Json.render .compact 0 located.toJson ++ ['\n']) := by
  rw [emitPosition, carriedPosition_eq hline hcolumn path clock form hgiven hlocated,
    Position.checkShown_of_isShown shown, Position.checkShown_of_isShown shown']
  refine ⟨_, rfl, ?_⟩
  rw [Position.toJson_ofCursor]
  exact congrArg (· ++ _) (Session.printed_log ..)

theorem emitPosition_of_not_isShown (long : ¬located.IsShown) :
    emitPosition arguments form.1 (outcomeOf path clock form) session =
      (session, .error .numberTooLong) := by
  rw [emitPosition, carriedPosition_eq hline hcolumn path clock form hgiven hlocated,
    Position.checkShown_of_not_isShown long]
  by_cases shown : given.IsShown
  · rw [Position.checkShown_of_isShown shown]
    rfl
  · rw [Position.checkShown_of_not_isShown shown]
    rfl

end Position

/-- The text is printed, with a line feed behind it unless it is empty or ends in one. -/
theorem exists_emitText (memory : Memory) (noDirectory : arguments.outputDir.get? = none)
    (outcome : Document.Outcome) :
    ∃ ended, emitText memory arguments outcome session = (ended, .ok ()) ∧
      ended.printed = session.printed ++ (outcome.text ++
        if outcome.text.isEmpty || outcome.text.getLast? = some '\n' then [] else ['\n']) := by
  rw [emitText.eq_def]
  split
  · next directory given => rw [given] at noDirectory; cases noDirectory
  · dsimp only
    split_ifs
    · exact ⟨_, rfl, congrArg _ (List.append_nil _).symm⟩
    · exact ⟨_, rfl, List.append_assoc ..⟩

/-- The report is printed that the settings ask for. -/
theorem emitReport_eq (memory : Memory) (noDirectory : arguments.outputDir.get? = none)
    (outcome : Document.Outcome) :
    emitReport memory arguments config outcome session =
      match reportWriter arguments config >>= fun writer ↦ writer.write memory outcome.report with
      | .ok text => (session.printLine text, .ok ())
      | .error fault => (session, .error fault) := by
  rw [emitReport]
  cases reportWriter arguments config with
  | error fault => rfl
  | ok writer =>
    simp only [bind, Except.bind]
    split
    · next directory given => rw [given] at noDirectory; cases noDirectory
    · cases writer.write memory outcome.report <;> rfl

end Emit

/-! ### Runs of the three commands -/

section Runs

variable {words : List String} {store : Store} {config : Value} {command : Command}
  {arguments : Arguments} (memory : Memory)

theorem Starts.fails_of_error (starts : Starts words store config command arguments)
    (noDirectory : arguments.outputDir.get? = none) (clock : Document.Clock) {fault : Fault}
    (failed : sourceForm store config arguments.sourcePath arguments.shortForm = .error fault) :
    Fails (run memory words store clock) := by
  obtain ⟨rank, run⟩ := starts.exists_run_eq noDirectory memory clock
  rw [run]
  obtain ⟨ending, printed, -⟩ :=
    perform_of_error command { store, clock, threshold := rank } memory failed
  exact ⟨ending, printed⟩

theorem Starts.exists_emit (starts : Starts words store config command arguments)
    (noDirectory : arguments.outputDir.get? = none) (clock : Document.Clock)
    {form : List Char × Bool}
    (read : sourceForm store config arguments.sourcePath arguments.shortForm = .ok form) :
    ∃ session : Session, session.printed = [] ∧
      let emitted := emit memory command arguments config form.1
        (outcomeOf arguments.sourcePath clock form) session
      (∀ ended, emitted = (ended, .ok ()) → run memory words store clock = (ended, .exit 0)) ∧
        ∀ ended fault, emitted = (ended, .error fault) → Fails (run memory words store clock) := by
  obtain ⟨rank, run⟩ := starts.exists_run_eq noDirectory memory clock
  rw [run]
  obtain ⟨session, printed, -, done, failed⟩ :=
    exists_perform_of_ok command { store, clock, threshold := rank } memory read
  refine ⟨session, printed, done, fun ended fault emitted ↦ ?_⟩
  obtain ⟨ending, nothing, -⟩ := failed ended fault emitted
  exact ⟨ending, nothing⟩

/-- The command that expands a source prints the text that the library gives, or fails where the
library does. -/
theorem run_preprocess (starts : Starts words store config .preprocess arguments)
    (noDirectory : arguments.outputDir.get? = none) (clock otherClock : Document.Clock) :
    match preprocessFile store config arguments.sourcePath arguments.shortForm otherClock with
    | .ok outcome => Prints (run memory words store clock) (outcome.text ++
        if outcome.text.isEmpty || outcome.text.getLast? = some '\n' then [] else ['\n'])
    | .error _ => Fails (run memory words store clock) := by
  rw [preprocessFile_eq]
  cases read : sourceForm store config arguments.sourcePath arguments.shortForm with
  | error fault => exact starts.fails_of_error memory noDirectory clock read
  | ok form =>
    obtain ⟨session, printed, emitted, -⟩ := starts.exists_emit memory noDirectory clock read
    obtain ⟨ended, done, text⟩ := exists_emitText memory noDirectory
      (outcomeOf arguments.sourcePath clock form)
    rw [printed, List.nil_append] at text
    rw [emitted ended done]
    exact ⟨rfl, text⟩

/-- The command for the line map prints what the writer that it sets up writes of the report on the
outcome that the library gives, or fails where the library does or nothing can be written. -/
theorem run_lineMap (starts : Starts words store config .lineMap arguments)
    (noDirectory : arguments.outputDir.get? = none) (clock : Document.Clock) :
    match reportText memory store config arguments clock with
    | .ok text => Prints (run memory words store clock) (text ++ ['\n'])
    | .error _ => Fails (run memory words store clock) := by
  rw [reportText, preprocessFile_eq]
  cases read : sourceForm store config arguments.sourcePath arguments.shortForm with
  | error fault => exact starts.fails_of_error memory noDirectory clock read
  | ok form =>
    obtain ⟨session, printed, emitted, failed⟩ := starts.exists_emit memory noDirectory clock read
    rw [emit, emitReport_eq memory noDirectory] at emitted failed
    -- Setting up the writer and writing fail alike: either way nothing has been printed yet.
    change match reportWriter arguments config >>= fun writer ↦
      writer.write memory (outcomeOf arguments.sourcePath clock form).report with
      | .ok text => Prints (run memory words store clock) (text ++ ['\n'])
      | .error _ => Fails (run memory words store clock)
    cases written : reportWriter arguments config >>= fun writer ↦
        writer.write memory (outcomeOf arguments.sourcePath clock form).report with
    | error fault => exact failed session fault (by rw [written])
    | ok text =>
      rw [emitted (session.printLine text) (by rw [written])]
      exact ⟨rfl, congrArg (· ++ (text ++ ['\n'])) printed⟩

/-- A cursor that can be written after it was carried over, could be written before, if it comes
from numbers that were read. -/
theorem isShown_of_locate {arguments : Arguments} (numbers : arguments.HasShortNumbers)
    (line : Int) {column : Int} (hcolumn : arguments.column = .value column)
    (form : List Char × Bool) (editor : Bool)
    (shown : ((Stave.expandIf form.2 form.1).locate
      (Cursor.ofPosition form.1 line column editor)).IsShown) :
    (Cursor.ofPosition form.1 line column editor).IsShown :=
  ⟨(Stave.natAbs_le_locate form.2 form.1 _).trans_lt shown.line,
    (Document.natAbs_column_ofPosition form.1 line column editor).trans_lt
      (numbers.2 column hcolumn)⟩

/-- The command that carries cursors over prints the cursor that the library gives, if it can be
written, and fails if not, or where the library does. -/
theorem run_mapCursor (starts : Starts words store config .mapCursor arguments)
    {line column : Int} (hline : arguments.line = .value line)
    (hcolumn : arguments.column = .value column) (clock : Document.Clock) :
    match carryOver store config arguments.sourcePath arguments.shortForm line column
      arguments.editorPosition with
    | .ok located =>
      (located.IsShown →
        Prints (run memory words store clock) (Json.render .compact 0 located.toJson ++ ['\n'])) ∧
      (¬located.IsShown → Fails (run memory words store clock))
    | .error _ => Fails (run memory words store clock) := by
  have noDirectory : arguments.outputDir.get? = none := by
    rw [outputDir_of_mapCursor starts.understood]
    rfl
  rw [carryOver_eq]
  cases read : sourceForm store config arguments.sourcePath arguments.shortForm with
  | error fault => exact starts.fails_of_error memory noDirectory clock read
  | ok form =>
    obtain ⟨session, printed, emitted, failed⟩ := starts.exists_emit memory noDirectory clock read
    refine ⟨fun shown ↦ ?_, fun long ↦ ?_⟩
    · -- The log names both cursors, so the one before has to be written as well.
      have given := isShown_of_locate (hasShortNumbers_of_run starts.understood) line hcolumn form
        arguments.editorPosition shown
      obtain ⟨ended, done, text⟩ := exists_emitPosition hline hcolumn arguments.sourcePath clock
        form rfl rfl given shown
      rw [printed, List.nil_append] at text
      rw [emitted ended done]
      exact ⟨rfl, text⟩
    · exact failed _ _ <|
        emitPosition_of_not_isShown hline hcolumn arguments.sourcePath clock form rfl rfl long

theorem run_mapCursor_of_ok (starts : Starts words store config .mapCursor arguments)
    {line column : Int} (hline : arguments.line = .value line)
    (hcolumn : arguments.column = .value column) (clock : Document.Clock) {located : Cursor}
    (answer : carryOver store config arguments.sourcePath arguments.shortForm line column
      arguments.editorPosition = .ok located) :
    (located.IsShown →
      Prints (run memory words store clock) (Json.render .compact 0 located.toJson ++ ['\n'])) ∧
    (¬located.IsShown → Fails (run memory words store clock)) := by
  have agreed := run_mapCursor memory starts hline hcolumn clock
  rw [answer] at agreed
  exact agreed

end Runs

end Cli

end Tabstave
