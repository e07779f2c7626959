import Tabstave.Proofs.Cli.Files

/-!
# How a run ends

What goes wrong while a command is carried out is caught: the run says so in the log and ends with
exit code 1 (`exit_zero_or_reports_perform`). But loading the configuration, choosing the level of
the log and making the directory are not done under this guard, and their faults end the run by
themselves. `Uncaught` lists them, and `ending_of_run` says that there are no others. A directory
for a configuration file is one (`run_directoryConfig`).
-/

namespace Tabstave.Cli

/-- A run has failed and said so: logging an error is the last thing that it did. -/
def Reports (ended : Session × Ending) : Prop :=
  ended.2 = .exit 1 ∧ ∃ session message, ended.1 = Session.log session .error message

/-- The faults of a command that nothing catches. -/
inductive Uncaught (arguments : Arguments) (store : Store) : Fault → Prop
  /-- The configuration cannot be loaded, or says no level for the log. -/
  | setup {fault : Fault}
      (failed : Config.load store arguments.config.get? >>= threshold arguments = .error fault) :
      Uncaught arguments store fault
  /-- The log is set up, and no directory can have the path for the output. -/
  | directory {rank : Nat} {directory : Path}
      (logging : Config.load store arguments.config.get? >>= threshold arguments = .ok rank)
      (given : arguments.outputDir.get? = some directory) (nul : Store.hasNul directory = true) :
      Uncaught arguments store .nulInPath
  /-- The configuration could be loaded before the directory was made, and cannot any more. -/
  | reload {rank : Nat} {fault : Fault}
      (logging : Config.load store arguments.config.get? >>= threshold arguments = .ok rank)
      (made : ∀ directory, arguments.outputDir.get? = some directory →
        (store.makeDirectories directory).2 = .ok ())
      (failed : Config.load (prepared arguments store) arguments.config.get? = .error fault) :
      Uncaught arguments store fault

/-! ### What is caught -/

section Perform

variable (memory : Memory) (command : Command) (arguments : Arguments) (config : Value)
  (session : Session)

/-- A source that cannot be used is named in the log. -/
theorem exists_log_of_loadSource {session' : Session}
    (loaded : loadSource arguments config session = (session', .ok none)) :
    ∃ before message, session' = Session.log before .error message := by
  rw [loadSource] at loaded
  split at loaded
  · cases loaded
  dsimp only at loaded
  split at loaded
  · split_ifs at loaded <;> cases loaded
    exact ⟨_, _, rfl⟩
  · split at loaded <;> cases loaded

/-- **A command that is carried out ends well or reports that it failed.** -/
theorem exit_zero_or_reports_perform :
    (perform memory command arguments config session).2 = .exit 0 ∨
      Reports (perform memory command arguments config session) := by
  rw [perform]
  split
  · exact .inr ⟨rfl, _, _, rfl⟩
  · next loaded => exact .inr ⟨rfl, exists_log_of_loadSource _ _ _ loaded⟩
  · split
    · exact .inl rfl
    · exact .inr ⟨rfl, _, _, rfl⟩

end Perform

/-! ### The directory for the output -/

/-- What making the directory for the output comes to: it is there if one is asked for, or that it
cannot be made is logged, or its path is one that no directory can have. -/
inductive Prepares (arguments : Arguments) (store : Store) :
    Session × Except Fault Bool → Prop
  | made {session : Session}
      (made : ∀ directory, arguments.outputDir.get? = some directory →
        (store.makeDirectories directory).2 = .ok ()) :
      Prepares arguments store (session, .ok true)
  | refused {session : Session} {message : String} {directory : Path} {fault : Fault}
      (given : arguments.outputDir.get? = some directory)
      (refused : (store.makeDirectories directory).2 = .error fault) :
      Prepares arguments store (session.log .error message, .ok false)
  | nul {session : Session} {directory : Path}
      (given : arguments.outputDir.get? = some directory) (nul : Store.hasNul directory = true) :
      Prepares arguments store (session, .error .nulInPath)

theorem prepares (arguments : Arguments) (session : Session) :
    Prepares arguments session.store (prepareOutput arguments session) := by
  rw [prepareOutput.eq_def]
  split
  · next directory isValue =>
    have given : arguments.outputDir.get? = some directory := by rw [isValue]; rfl
    -- A path with a NUL is the only one that fails with something else than a file fault.
    cases nul : Store.hasNul directory with
    | true =>
      rw [Store.makeDirectories_of_hasNul nul]
      exact .nul given nul
    | false =>
      split
      · next made =>
        refine .made fun other given' ↦ ?_
        rw [given] at given'
        cases given'
        rw [made]
      · next made => exact .refused given (congrArg Prod.snd made)
      · next notFile made =>
        obtain ⟨reason, text, rfl⟩ :=
          Store.exists_file_of_makeDirectories nul (congrArg Prod.snd made)
        exact absurd rfl (notFile reason text)
  · next noValue =>
    refine .made fun directory given ↦ ?_
    rw [Given.get?_eq_none noValue] at given
    cases given

/-! ### Runs -/

section Handle

variable {memory : Memory} {command : Command} {arguments : Arguments} {session : Session}

/-- Carrying out a command ends well, or reports that it failed, or escapes. -/
theorem handle_cases (memory : Memory) (command : Command) (arguments : Arguments)
    (session : Session) :
    (handle memory command arguments session).2 = .exit 0 ∨
      Reports (handle memory command arguments session) ∨
      ∃ fault, (handle memory command arguments session).2 = .escaped fault := by
  have outcome := prepares arguments session
  rw [handle]
  generalize prepareOutput arguments session = result at outcome ⊢
  cases outcome with
  | made made =>
    dsimp only
    split
    · exact .inr (.inr ⟨_, rfl⟩)
    · exact (exit_zero_or_reports_perform ..).imp_right .inl
  | refused => exact .inr (.inl ⟨rfl, _, _, rfl⟩)
  | nul => exact .inr (.inr ⟨_, rfl⟩)

theorem perform_ne_escaped (config : Value) (fault : Fault) :
    (perform memory command arguments config session).2 ≠ .escaped fault := by
  intro escapes
  rcases exit_zero_or_reports_perform memory command arguments config session with
    well | ⟨failed, -⟩
  · rw [well] at escapes; cases escapes
  · rw [failed] at escapes; cases escapes

/-- What escapes once the log is set up is not caught. -/
theorem uncaught_of_handle (session : Session) {rank : Nat} {fault : Fault}
    (logging : Config.load session.store arguments.config.get? >>= threshold arguments = .ok rank)
    (escapes : (handle memory command arguments session).2 = .escaped fault) :
    Uncaught arguments session.store fault := by
  have outcome := prepares arguments session
  have store := (store_clock_prepareOutput arguments session).1
  rw [handle] at escapes
  generalize prepareOutput arguments session = result at outcome store escapes
  cases outcome with
  | made made =>
    dsimp only at store escapes
    rw [store] at escapes
    split at escapes
    · next failed => cases escapes; exact .reload logging made failed
    · exact absurd escapes (perform_ne_escaped _ _)
  | refused => cases escapes
  | nul given nul => cases escapes; exact .directory logging given nul

/-- A path that no directory can have ends the command. -/
theorem handle_of_hasNul {directory : Path} (given : arguments.outputDir.get? = some directory)
    (nul : Store.hasNul directory = true) :
    (handle memory command arguments session).2 = .escaped .nulInPath := by
  rw [handle, prepareOutput, Given.eq_value_of_get? given]
  dsimp only
  rw [Store.makeDirectories_of_hasNul nul]

/-- A configuration that cannot be loaded once the directory is made ends the command. -/
theorem handle_of_load_error {fault : Fault}
    (made : ∀ directory, arguments.outputDir.get? = some directory →
      (session.store.makeDirectories directory).2 = .ok ())
    (failed : Config.load (prepared arguments session.store) arguments.config.get? =
      .error fault) :
    (handle memory command arguments session).2 = .escaped fault := by
  obtain ⟨ready, goesOn, store⟩ := exists_prepareOutput made
  rw [handle, goesOn]
  dsimp only
  rw [store, failed]

/-- **What escapes is exactly what is not caught.** -/
theorem escapes_iff_uncaught {fault : Fault} :
    (start memory command arguments session).2 = .escaped fault ↔
      Uncaught arguments session.store fault := by
  constructor
  · intro escapes
    cases logging : Config.load session.store arguments.config.get? >>= threshold arguments with
    | error other =>
      rw [start_of_error session logging] at escapes
      cases escapes
      exact .setup logging
    | ok rank =>
      rw [start_of_ok session logging] at escapes
      exact uncaught_of_handle { session with threshold := rank } logging escapes
  · rintro (failed | ⟨logging, given, nul⟩ | ⟨logging, made, failed⟩)
    · rw [start_of_error session failed]
    · rw [start_of_ok session logging]
      exact handle_of_hasNul given nul
    · rw [start_of_ok session logging]
      exact handle_of_load_error made failed

end Handle

/-- **A run ends with exit code 0, or reports an error and ends with 1, or escapes by one of the
faults that nothing catches.** Only mistakes in the command line end it with 2. -/
theorem ending_of_run (memory : Memory) (words : List String) (store : Store)
    (clock : Document.Clock) :
    match Invocation.ofWords words with
    | .run _ arguments =>
      ((run memory words store clock).2 = .exit 0 ∨ Reports (run memory words store clock) ∨
        ∃ fault, (run memory words store clock).2 = .escaped fault) ∧
      ∀ fault, (run memory words store clock).2 = .escaped fault ↔ Uncaught arguments store fault
    | .usageError _ _ => (run memory words store clock).2 = .exit 2
    | _ => (run memory words store clock).2 = .exit 0 := by
  cases understood : Invocation.ofWords words with
  | help => rw [run, understood]
  | version => rw [run, understood]
  | usageError => rw [run, understood]
  | run command arguments =>
    rw [run, understood]
    dsimp only
    refine ⟨?_, fun fault ↦ escapes_iff_uncaught⟩
    cases logging : Config.load store arguments.config.get? >>= threshold arguments with
    | error fault =>
      rw [start_of_error { store, clock } logging]
      exact .inr (.inr ⟨fault, rfl⟩)
    | ok rank =>
      rw [start_of_ok { store, clock } logging]
      exact handle_cases ..

/-! ### A directory for a configuration file -/

/-- The working directory is there, but cannot be read. -/
theorem load_workingDirectory (nodes : List (Place × Node)) :
    Config.load ⟨nodes, []⟩ (some (Path.ofString ".")) = .error (.file .isADirectory ".") := by
  have node : Store.node ⟨nodes, []⟩ (Path.ofString ".") = .ok .directory := rfl
  have path : Store.hasNul (Path.ofString ".") = false :=
    Store.hasNul_eq_false (by decide +kernel)
  have found : Store.find? ⟨nodes, []⟩ (Path.ofString ".") = .ok (some .directory) := by
    rw [Store.find?, path, if_neg Bool.false_ne_true, node]
  have read : Store.read ⟨nodes, []⟩ (Path.ofString ".") = .error (.file .isADirectory ".") := by
    rw [Store.read, path, if_neg Bool.false_ne_true, node]
    rfl
  rw [Config.load]
  simp only [found, read, bind, Except.bind]

/-- A directory that is given for a configuration file ends the run by itself. -/
theorem run_directoryConfig :
    (run .usual ["a.tab", "--config", "."] ⟨[(["a.tab"], .file [0x61, 0x3d, 0x31])], []⟩ []).2 =
      .escaped (.file .isADirectory ".") := by
  have understood : Invocation.ofWords ["a.tab", "--config", "."] = .run .preprocess
      { source := some (Path.ofString "a.tab"), config := .value (Path.ofString ".") } := rfl
  rw [run, understood]
  exact escapes_iff_uncaught.2 (.setup (by
    rw [Given.get?, load_workingDirectory]
    rfl))

end Tabstave.Cli
