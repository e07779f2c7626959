import Tabstave.Proofs.Cli.Run
import Tabstave.Proofs.Files.Store

/-!
# What a run leaves of the files

A command touches the files at two points. First it makes the directory for its output
(`store_clock_prepareOutput`), last it writes one file (`putsOut_of_emit`). All else that can fail
comes between the two, so a run that does not end well has at most made directories.

`files_of_run` puts this together for every command line.
-/

namespace Tabstave.Cli

namespace Given

variable {α : Type} {given : Given α}

theorem get?_eq_none (noValue : ∀ a, given ≠ .value a) : given.get? = none := by
  cases given with
  | value a => exact absurd rfl (noValue a)
  | absent => rfl
  | nothing => rfl

theorem eq_value_of_get? {a : α} (some_value : given.get? = some a) : given = .value a := by
  cases given <;> cases some_value
  rfl

end Given

/-! ### Putting out -/

/-- The text that a command puts into a file, if it is one that writes files. -/
inductive Writes (memory : Memory) (arguments : Arguments) (config : Value)
    (outcome : Document.Outcome) : Command → List Char → Prop
  | expanded : Writes memory arguments config outcome .preprocess outcome.text
  | report {writer : Json.Writer} {text : List Char}
      (settings : reportWriter arguments config = .ok writer)
      (written : writer.write memory outcome.report = .ok text) :
      Writes memory arguments config outcome .lineMap text

/-- What putting out does to the files: one is written if there is a directory for it, and else
nothing happens. -/
def PutsOut (memory : Memory) (command : Command) (arguments : Arguments) (config : Value)
    (outcome : Document.Outcome) (before after : Store) : Prop :=
  match arguments.outputDir.get? with
  | none => after = before
  | some directory => ∃ target text, outputPath memory command arguments directory = .ok target ∧
      Writes memory arguments config outcome command text ∧ before.writeText target text = .ok after

section Emit

variable {memory : Memory} {arguments : Arguments} {config : Value} {outcome : Document.Outcome}
  {session ended : Session}

theorem putsOut_of_emitText (done : emitText memory arguments outcome session = (ended, .ok ())) :
    PutsOut memory .preprocess arguments config outcome session.store ended.store := by
  rw [emitText.eq_def] at done
  rw [PutsOut]
  split at done
  · next directory given =>
    rw [given]
    split at done
    · cases done
    next target path =>
    split at done
    · cases done
    next store written =>
    have stored : ended.store = store := by
      dsimp only at done
      split_ifs at done <;> cases done
      · exact Session.store_log ..
      · exact (Session.store_print ..).trans (Session.store_log ..)
    exact ⟨target, _, path, .expanded, stored ▸ written⟩
  · next noValue =>
    rw [Given.get?_eq_none noValue]
    dsimp only at done
    split_ifs at done <;> cases done <;> rfl

theorem exists_of_writeTo {writer : Json.Writer} {data : Value} {store after : Store} {path : Path}
    {text : List Char} (done : writer.writeTo memory data store path = (after, .ok text)) :
    writer.write memory data = .ok text ∧ store.writeText path text = .ok after := by
  rw [Json.Writer.writeTo] at done
  split at done
  · cases done
  next written =>
  split at done <;> cases done
  next stored => exact ⟨written, stored⟩

theorem putsOut_of_emitReport
    (done : emitReport memory arguments config outcome session = (ended, .ok ())) :
    PutsOut memory .lineMap arguments config outcome session.store ended.store := by
  rw [emitReport] at done
  rw [PutsOut]
  split at done
  · cases done
  next writer settings =>
  split at done
  · next directory given =>
    rw [given]
    split at done
    · cases done
    next target path =>
    split at done
    · cases done
    next store text written =>
    have stored : ended.store = store := by
      dsimp only at done
      split_ifs at done <;> cases done <;> rfl
    obtain ⟨written, toFile⟩ := exists_of_writeTo written
    exact ⟨target, text, path, .report settings written, stored ▸ toFile⟩
  · next noValue =>
    rw [Given.get?_eq_none noValue]
    split at done <;> cases done
    rfl

theorem store_of_emitPosition {source : List Char}
    (done : emitPosition arguments source outcome session = (ended, .ok ())) :
    ended.store = session.store := by
  rw [emitPosition] at done
  split at done <;> cases done
  exact (Session.store_print ..).trans (Session.store_log ..)

/-- What puts out successfully writes its file, if it has a directory for it. -/
theorem putsOut_of_emit {command : Command} {source : List Char}
    (noFile : command = .mapCursor → arguments.outputDir.get? = none)
    (done : emit memory command arguments config source outcome session = (ended, .ok ())) :
    PutsOut memory command arguments config outcome session.store ended.store := by
  cases command with
  | preprocess => exact putsOut_of_emitText done
  | lineMap => exact putsOut_of_emitReport done
  | mapCursor =>
    rw [PutsOut, noFile rfl]
    exact store_of_emitPosition done

end Emit

/-! ### Runs -/

/-- The files with the directory for the output, so far as it can be made. -/
def prepared (arguments : Arguments) (store : Store) : Store :=
  match arguments.outputDir.get? with
  | none => store
  | some directory => (store.makeDirectories directory).1

/-- Whatever comes of preparing the output, the files have the directory so far as it could be made.
-/
theorem store_clock_prepareOutput (arguments : Arguments) (session : Session) :
    (prepareOutput arguments session).1.store = prepared arguments session.store ∧
      (prepareOutput arguments session).1.clock = session.clock := by
  rw [prepareOutput.eq_def, prepared]
  split
  · next directory given =>
    rw [given]
    split <;> next made =>
      simp only [Session.store_log, Session.clock_log, Given.get?, made, and_self]
  · next noValue =>
    rw [Given.get?_eq_none noValue]
    exact ⟨rfl, rfl⟩

/-- A command goes on once its directory is there, if it needs one. -/
theorem exists_prepareOutput {arguments : Arguments} {session : Session}
    (made : ∀ directory, arguments.outputDir.get? = some directory →
      (session.store.makeDirectories directory).2 = .ok ()) :
    ∃ ready, prepareOutput arguments session = (ready, .ok true) ∧
      ready.store = prepared arguments session.store := by
  have store := (store_clock_prepareOutput arguments session).1
  suffices goesOn : (prepareOutput arguments session).2 = .ok true from
    ⟨_, Prod.ext rfl goesOn, store⟩
  rw [prepareOutput.eq_def]
  split
  · next directory isValue =>
    have done := made directory (by rw [isValue]; rfl)
    split
    · rfl
    · next making => rw [making] at done; cases done
    · next making => rw [making] at done; cases done
  · rfl

/-- How a command can end, given the files with its directory: it fails and leaves them, or it ends
well and has put something out. -/
inductive Ends (memory : Memory) (command : Command) (arguments : Arguments)
    (clock : Document.Clock) (made : Store) : Session × Ending → Prop
  | failed {ended : Session × Ending} (failure : ended.2 ≠ .exit 0) (kept : ended.1.store = made) :
      Ends memory command arguments clock made ended
  | succeeded {config : Value} {outcome : Document.Outcome} {session : Session}
      (loaded : Config.load made arguments.config.get? = .ok config)
      (preprocessed : preprocessFile made config arguments.sourcePath arguments.shortForm clock =
        .ok outcome)
      (putsOut : PutsOut memory command arguments config outcome made session.store) :
      Ends memory command arguments clock made (session, .exit 0)

section Ends

variable {memory : Memory} {command : Command} {arguments : Arguments}
  (noFile : command = .mapCursor → arguments.outputDir.get? = none)

include noFile

theorem ends_perform {config : Value} {session : Session}
    (loaded : Config.load session.store arguments.config.get? = .ok config) :
    Ends memory command arguments session.clock session.store
      (perform memory command arguments config session) := by
  cases read : sourceForm session.store config arguments.sourcePath arguments.shortForm with
  | error fault =>
    obtain ⟨ending, -, kept⟩ := perform_of_error command session memory read
    exact .failed (by rw [ending]; rintro ⟨⟩) kept
  | ok form =>
    obtain ⟨session', -, store, done, failed⟩ := exists_perform_of_ok command session memory read
    cases emitted : emit memory command arguments config form.1
        (outcomeOf arguments.sourcePath session.clock form) session' with
    | mk ended result =>
      cases result with
      | error fault =>
        obtain ⟨ending, -, kept⟩ := failed ended fault emitted
        exact .failed (by rw [ending]; rintro ⟨⟩) kept
      | ok _ =>
        rw [done ended emitted]
        refine .succeeded loaded ?_ (store ▸ putsOut_of_emit noFile emitted)
        rw [preprocessFile_eq, read]
        rfl

theorem ends_handle (session : Session) :
    Ends memory command arguments session.clock (prepared arguments session.store)
      (handle memory command arguments session) := by
  obtain ⟨store, clock⟩ := store_clock_prepareOutput arguments session
  rw [handle, ← store, ← clock]
  generalize prepareOutput arguments session = prepared
  obtain ⟨session, fault | made⟩ := prepared
  · exact .failed (by rintro ⟨⟩) rfl
  cases made with
  | false => exact .failed (by rintro ⟨⟩) rfl
  | true =>
    dsimp only
    cases loaded : Config.load session.store arguments.config.get? with
    | error fault => exact .failed (by rintro ⟨⟩) rfl
    | ok config => exact ends_perform noFile loaded

end Ends

section Start

variable {memory : Memory} {command : Command} {arguments : Arguments} (session : Session)

/-- A command whose log cannot be set up has done nothing. -/
theorem start_of_error {fault : Fault}
    (failed : Config.load session.store arguments.config.get? >>= threshold arguments =
      .error fault) :
    start memory command arguments session = (session, .escaped fault) := by
  rw [start, failed]

theorem start_of_ok {rank : Nat}
    (logging : Config.load session.store arguments.config.get? >>= threshold arguments = .ok rank) :
    start memory command arguments session =
      handle memory command arguments { session with threshold := rank } := by
  rw [start, logging]

end Start

/-- What a run of a command leaves of the files that there were. -/
structure Leaves (memory : Memory) (command : Command) (arguments : Arguments) (before : Store)
    (clock : Document.Clock) (ended : Session × Ending) : Prop where
  /-- A run that does not end well has at most made directories on the path for its output. -/
  failed : ended.2 ≠ .exit 0 → ∀ directory, arguments.outputDir.get? = some directory →
    before.MadeAlong directory ended.1.store
  /-- A run that ends well has made its directory and written one file, with what it is for. -/
  succeeded : ended.2 = .exit 0 → ∀ directory, arguments.outputDir.get? = some directory →
    ∃ made config outcome target text place, Store.MadeAlong directory before made ∧
      Config.load made arguments.config.get? = .ok config ∧
      preprocessFile made config arguments.sourcePath arguments.shortForm clock = .ok outcome ∧
      outputPath memory command arguments directory = .ok target ∧
      Writes memory arguments config outcome command text ∧
      ended.1.store.resolve target = .ok (place, some (.file (Text.Utf8.encode text))) ∧
      made.get? place ≠ some .directory ∧
      ∀ other, other ≠ place → ended.1.store.get? other = made.get? other
  /-- Without a directory nothing is written. -/
  noDirectory : arguments.outputDir.get? = none → ended.1.store = before
  noFile : command = .mapCursor → ended.1.store = before

section Leaves

variable {memory : Memory} {command : Command} {arguments : Arguments} {clock : Document.Clock}
  {before : Store} {ended : Session × Ending}

theorem prepared_of_none (noDirectory : arguments.outputDir.get? = none) :
    prepared arguments before = before := by
  rw [prepared, noDirectory]

theorem madeAlong_prepared {directory : Path} (given : arguments.outputDir.get? = some directory) :
    before.MadeAlong directory (prepared arguments before) := by
  rw [prepared, given]
  exact before.madeAlong_makeDirectories directory

theorem Ends.store_of_none (ends : Ends memory command arguments clock before ended)
    (noDirectory : arguments.outputDir.get? = none) : ended.1.store = before := by
  cases ends with
  | failed _ kept => exact kept
  | succeeded _ _ putsOut =>
    rw [PutsOut, noDirectory] at putsOut
    exact putsOut

theorem Ends.leaves (ends : Ends memory command arguments clock (prepared arguments before) ended)
    (noFile : command = .mapCursor → arguments.outputDir.get? = none) :
    Leaves memory command arguments before clock ended := by
  have keeps (noDirectory : arguments.outputDir.get? = none) : ended.1.store = before := by
    rw [prepared_of_none noDirectory] at ends
    exact ends.store_of_none noDirectory
  refine ⟨fun failure directory given ↦ ?_, fun well directory given ↦ ?_, keeps,
    fun isCursor ↦ keeps (noFile isCursor)⟩
  · cases ends with
    | failed _ kept => exact kept ▸ madeAlong_prepared given
    | succeeded => exact absurd rfl failure
  · cases ends with
    | failed failure => exact absurd well failure
    | succeeded loaded preprocessed putsOut =>
      rw [PutsOut, given] at putsOut
      obtain ⟨target, text, path, writes, written⟩ := putsOut
      obtain ⟨place, resolved, -, -, free, others⟩ := Store.exists_resolve_of_write written
      exact ⟨_, _, _, target, text, place, madeAlong_prepared given, loaded, preprocessed, path,
        writes, resolved, free, others⟩

/-- A run that is over before anything is done leaves all files. -/
theorem leaves_of_escaped (session : Session) (fault : Fault) :
    Leaves memory command arguments session.store clock (session, .escaped fault) where
  failed _ directory _ := session.store.madeAlong_refl directory
  succeeded well := by cases well
  noDirectory _ := rfl
  noFile _ := rfl

end Leaves

/-- **Commands that fail leave the files intact, and others write what they are for and nothing
else.** Data that cannot be written as JSON, or not to its file, leaves the files as they were. -/
theorem files_of_run (memory : Memory) (words : List String) (store : Store)
    (clock : Document.Clock) :
    (match Invocation.ofWords words with
      | .run command arguments =>
        Leaves memory command arguments store clock (run memory words store clock)
      | _ => (run memory words store clock).1.store = store) ∧
    ∀ (writer : Json.Writer) (data : Value) (path : Path),
      (∀ fault, writer.write memory data = .error fault →
        writer.writeTo memory data store path = (store, .error fault)) ∧
      ∀ after fault,
        writer.writeTo memory data store path = (after, .error fault) → after = store := by
  refine ⟨?_, fun writer data path ↦
    ⟨fun fault failed ↦ by rw [Json.Writer.writeTo, failed], fun _ _ ↦ eq_of_writeTo_error⟩⟩
  cases understood : Invocation.ofWords words with
  | help => rw [run, understood]; rfl
  | version => rw [run, understood]; rfl
  | usageError => rw [run, understood]
  | run command arguments =>
    have noFile (isCursor : command = .mapCursor) : arguments.outputDir.get? = none := by
      subst isCursor
      rw [outputDir_of_mapCursor understood]
      rfl
    rw [run, understood]
    dsimp only
    cases logging : Config.load store arguments.config.get? >>= threshold arguments with
    | error fault =>
      rw [start_of_error { store, clock } logging]
      exact leaves_of_escaped { store, clock } fault
    | ok rank =>
      rw [start_of_ok { store, clock } logging]
      exact (ends_handle noFile { store, clock, threshold := rank }).leaves noFile

end Tabstave.Cli
