import Tabstave.Proofs.Cli.CommandLine
import Tabstave.Proofs.Cli.Run
import Tabstave.Proofs.Document.ReportData

/-!
# The commands, the library and each other

`commands_agree` says of all runs on a file system that the commands agree with the library and with
each other: the text and the cursor that are printed are those that the library gives, a command
fails where the library does, and the report on the lines says where the cursors go.

There is one exception. A number with more digits than can be written is printed nowhere, though a
cursor may have one: a column as long as can be read may be moved beyond (`run_longColumn`).

What is said is about sources whose code points are those of a text (`ReadsText`). Others cannot be
printed, though the library goes on with them.
-/

namespace Tabstave.Cli

theorem includeUnshifted_of_reportWriter {arguments : Arguments} {config : Value}
    {writer : Json.Writer} (settings : reportWriter arguments config = .ok writer) :
    writer.includeUnshifted = !arguments.changedOnly := by
  rw [reportWriter] at settings
  obtain ⟨output, -, settings⟩ := exists_of_bind_eq_ok settings
  obtain ⟨prettyPrint, -, settings⟩ := exists_of_bind_eq_ok settings
  obtain ⟨indent, -, settings⟩ := exists_of_bind_eq_ok settings
  obtain ⟨includeKinds, -, settings⟩ := exists_of_bind_eq_ok settings
  cases settings
  rfl

/-- A report on all lines has one entry on each line of the source, and it says where the cursors of
the line go. -/
theorem exists_entry_of_keptData {writer : Json.Writer} (all : writer.includeUnshifted = true)
    (path : Path) (clock : Document.Clock) (form : List Char × Bool) {line : Int} (low : 1 ≤ line)
    (high : line ≤ (outcomeOf path clock form).sourceLineCount) :
    ∃ entry ∈ ((outcomeOf path clock form).keptData writer).lines, entry.sourceLine = line ∧
      (∀ other ∈ ((outcomeOf path clock form).keptData writer).lines,
        other.sourceLine = line → other = entry) ∧
      ∀ column, (Stave.expandIf form.2 form.1).locate ⟨line, column⟩ =
        ⟨entry.expandedLine, column + entry.columnOffset⟩ := by
  let map := (Stave.expandIf form.2 form.1).lineMap
  have numbered : map.Numbered := Stave.numbered_expandIf form.2 form.1
  have lines : ((outcomeOf path clock form).keptData writer).lines =
      map.map (Document.ReportLine.ofEntry writer.includeKinds) := by
    rw [Document.Outcome.keptData, all, Document.keptLines_true]
    rfl
  have high : line ≤ map.length := high
  obtain ⟨index, on⟩ : ∃ index : Nat, line = index + 1 := ⟨(line - 1).toNat, by omega⟩
  have found : map[index]? = some map[index] := List.getElem?_eq_getElem (by omega)
  refine ⟨.ofEntry writer.includeKinds map[index], ?_, ?_, ?_, ?_⟩
  · rw [lines]
    exact List.mem_map_of_mem (List.getElem_mem _)
  · have number := numbered index map[index] found
    show ((map[index]).sourceLine : Int) = line
    omega
  · rw [lines]
    rintro other mem same
    obtain ⟨entry, there, rfl⟩ := List.mem_map.1 mem
    have number : entry.sourceLine = index + 1 := by
      have same : (entry.sourceLine : Int) = line := same
      omega
    rw [numbered.eq_of_mem found there number]
  · exact Stave.locate_expandIf_of_entry found on

/-- What is read of the source of a command, if anything is, are the code points of a text. -/
def ReadsText (store : Store) (config : Value) (arguments : Arguments) : Prop :=
  ∀ options points, Config.options config arguments.shortForm = .ok options →
    Document.read store arguments.sourcePath options = .ok points →
    ∃ text, points = Text.codes text

/-- The commands agree with the library and with each other, on one file system and with one
configuration. -/
structure Agree (memory : Memory) (store : Store) (config : Value) : Prop where
  /-- What carries a position over prints the cursor that the library gives. -/
  mapCursor : ∀ {words arguments line column}, Starts words store config .mapCursor arguments →
    ReadsText store config arguments →
    arguments.line = .value line → arguments.column = .value column → ∀ clock,
    match carryOver store config arguments.sourcePath arguments.shortForm line column
      arguments.editorPosition with
    | .ok located =>
      (located.IsShown → Prints (run memory words store clock)
        (Json.render .compact 0 located.toJson ++ ['\n'])) ∧
      (¬located.IsShown → Fails (run memory words store clock))
    | .error _ => Fails (run memory words store clock)
  /-- What expands a source prints the text that the library gives. -/
  preprocess : ∀ {words arguments}, Starts words store config .preprocess arguments →
    ReadsText store config arguments → arguments.outputDir.get? = none → ∀ clock otherClock,
    match preprocessFile store config arguments.sourcePath arguments.shortForm otherClock with
    | .ok outcome => Prints (run memory words store clock) (outcome.text ++
        if outcome.text.isEmpty || outcome.text.getLast? = some '\n' then [] else ['\n'])
    | .error _ => Fails (run memory words store clock)
  /-- What reports on a source prints what is written of the outcome that the library gives. -/
  report : ∀ {words arguments}, Starts words store config .lineMap arguments →
    ReadsText store config arguments → arguments.outputDir.get? = none → ∀ clock,
    match reportText memory store config arguments clock with
    | .ok text => Prints (run memory words store clock) (text ++ ['\n'])
    | .error _ => Fails (run memory words store clock)
  /-- What reports on all lines, if it does not fail, prints a report that says where the cursors of
  each line are carried over to. -/
  lineMap : ∀ {words arguments clock}, Starts words store config .lineMap arguments →
    ReadsText store config arguments →
    arguments.outputDir.get? = none → arguments.changedOnly = false →
    (run memory words store clock).2 = .exit 0 →
    ∃ writer outcome text, reportWriter arguments config = .ok writer ∧
      preprocessFile store config arguments.sourcePath arguments.shortForm clock = .ok outcome ∧
      writer.write memory outcome.report = .ok text ∧
      Prints (run memory words store clock) (text ++ ['\n']) ∧
      (outcome.seconds.magnitude?.isSome →
        (∀ layout, writer.layout memory = .ok layout → layout.IsBlank) →
        (Json.read text).bind Document.ReportData.ofJson? = some (outcome.keptData writer)) ∧
      ∀ line : Int, 1 ≤ line → line ≤ outcome.sourceLineCount →
        ∃ entry ∈ (outcome.keptData writer).lines, entry.sourceLine = line ∧
          (∀ other ∈ (outcome.keptData writer).lines, other.sourceLine = line → other = entry) ∧
          ∀ {words' arguments' clock' column},
            Starts words' store config .mapCursor arguments' →
            arguments'.sourcePath = arguments.sourcePath →
            arguments'.shortForm = arguments.shortForm → arguments'.editorPosition = false →
            arguments'.line = .value line → arguments'.column = .value column →
            (run memory words' store clock').2 = .exit 0 →
            Prints (run memory words' store clock') (Json.render .compact 0
              (Cursor.toJson ⟨entry.expandedLine, column + entry.columnOffset⟩) ++ ['\n'])

/-- A report that is printed is that on the outcome that the library gives. -/
theorem exists_of_reportText {memory : Memory} {store : Store} {config : Value}
    {arguments : Arguments} {clock : Document.Clock} {text : List Char}
    (reported : reportText memory store config arguments clock = .ok text) :
    ∃ writer form, reportWriter arguments config = .ok writer ∧
      sourceForm store config arguments.sourcePath arguments.shortForm = .ok form ∧
      writer.write memory (outcomeOf arguments.sourcePath clock form).report = .ok text := by
  rw [reportText, preprocessFile_eq] at reported
  obtain ⟨outcome, preprocessed, reported⟩ := exists_of_bind_eq_ok reported
  obtain ⟨writer, settings, written⟩ := exists_of_bind_eq_ok reported
  cases read : sourceForm store config arguments.sourcePath arguments.shortForm with
  | error fault => rw [read] at preprocessed; cases preprocessed
  | ok form =>
    rw [read] at preprocessed
    cases preprocessed
    exact ⟨writer, form, settings, rfl, written⟩

/-- **The commands agree with the library and with each other.** -/
theorem commands_agree (memory : Memory) (store : Store) (config : Value) :
    Agree memory store config where
  mapCursor starts _ hline hcolumn clock := run_mapCursor memory starts hline hcolumn clock
  preprocess starts _ noDirectory clock otherClock :=
    run_preprocess memory starts noDirectory clock otherClock
  report starts _ noDirectory clock := run_lineMap memory starts noDirectory clock
  lineMap {words arguments clock} starts _ noDirectory all well := by
    have agreed := run_lineMap memory starts noDirectory clock
    cases reported : reportText memory store config arguments clock with
    | error fault => rw [reported] at agreed; exact absurd well agreed.ne_exit_zero
    | ok text =>
      rw [reported] at agreed
      obtain ⟨writer, form, settings, read, written⟩ := exists_of_reportText reported
      refine ⟨writer, outcomeOf arguments.sourcePath clock form, text, settings, ?_, written,
        agreed, fun finite blank ↦ Document.read_of_write_report blank finite written, ?_⟩
      · rw [preprocessFile_eq, read]
        rfl
      intro line low high
      have unfiltered : writer.includeUnshifted = true := by
        rw [includeUnshifted_of_reportWriter settings, all]
        rfl
      obtain ⟨entry, mem, number, only, goes⟩ :=
        exists_entry_of_keptData unfiltered arguments.sourcePath clock form low high
      refine ⟨entry, mem, number, only, ?_⟩
      -- The source is read anew, and as the files are the same it comes out the same.
      intro words' arguments' clock' column starts' samePath sameForm noEditor hline hcolumn well'
      have located : carryOver store config arguments'.sourcePath arguments'.shortForm line column
          arguments'.editorPosition = .ok ⟨entry.expandedLine, column + entry.columnOffset⟩ := by
        rw [carryOver_eq, samePath, sameForm, noEditor, read]
        exact congrArg Except.ok (goes column)
      have answer := run_mapCursor_of_ok memory starts' hline hcolumn clock' located
      by_cases shown : Cursor.IsShown ⟨entry.expandedLine, column + entry.columnOffset⟩
      · exact answer.1 shown
      · exact absurd well' (answer.2 shown).ne_exit_zero

/-! ### A file with one line -/

/-- A file system with one file, a line of stave options in short form. -/
def optionStore : Store :=
  { nodes := [(["a.tab"], .file [0x61, 0x3d, 0x31])], working := [] }

theorem options_defaults : Config.options (.dict Config.defaults) false = .ok .default :=
  rfl

theorem load_optionStore :
    Document.load optionStore (Path.ofString "a.tab") .default = .ok "a=1".toList := by
  have path : Store.hasNul (Path.ofString "a.tab") = false :=
    Store.hasNul_eq_false (by decide +kernel)
  have resolved : optionStore.resolve (Path.ofString "a.tab") =
      .ok (["a.tab"], some (.file [0x61, 0x3d, 0x31])) := rfl
  exact Document.load_default (Store.find?_of_resolve path resolved) rfl rfl

theorem sourceForm_optionStore :
    sourceForm optionStore (.dict Config.defaults) (Path.ofString "a.tab") false =
      .ok ("a=1".toList, true) := by
  rw [sourceForm, options_defaults]
  simp only [bind, Except.bind, Document.readForm, load_optionStore]
  rfl

theorem readsText_optionStore {arguments : Arguments}
    (path : arguments.sourcePath = Path.ofString "a.tab")
    (noShortForm : arguments.shortForm = false) :
    ReadsText optionStore (.dict Config.defaults) arguments := by
  intro options points built read
  rw [noShortForm, options_defaults] at built
  cases built
  rw [path, Document.load_eq_ok_iff.1 load_optionStore] at read
  cases read
  exact ⟨_, rfl⟩

theorem carryOver_optionStore (column : Int) :
    carryOver optionStore (.dict Config.defaults) (Path.ofString "a.tab") false 1 column false =
      .ok ⟨1, column + 9⟩ := by
  have entry : (Stave.expandIf true "a=1".toList).lineMap[0]? = some ⟨1, 1, 9, .staveOptions⟩ := rfl
  rw [carryOver_eq, sourceForm_optionStore]
  exact congrArg Except.ok (Stave.locate_expandIf_of_entry entry (by decide) column)

/-- A number of one digit has no more digits than others may have. -/
theorem natAbs_lt_of_digit {n : Int} (digit : n.natAbs < 10) {count : Nat} (some_ : count ≠ 0) :
    n.natAbs < Nat.pow 10 count :=
  digit.trans_le (Nat.le_self_pow some_ 10)

theorem starts_optionStore {column : Int} (short : column.natAbs < Nat.pow 10 Number.maxDigits) :
    Starts (cursorWords "a.tab" 1 column) optionStore (.dict Config.defaults) .mapCursor
      (cursorArguments "a.tab" 1 column) :=
  have line : (1 : Int).natAbs < Nat.pow 10 Number.maxDigits :=
    natAbs_lt_of_digit (by decide) (by decide)
  starts_of_noConfig (ofWords_cursorWords line short (by decide)) rfl _

/-- The arguments of a command on the file. -/
def optionArguments : Arguments :=
  { source := some (Path.ofString "a.tab") }

/-- What the library makes of the file. -/
def optionOutcome : Document.Outcome :=
  .ofForm "a=1".toList (some "a.tab") (.zero false) true

theorem preprocessFile_optionStore :
    preprocessFile optionStore (.dict Config.defaults) optionArguments.sourcePath
      optionArguments.shortForm [] = .ok optionOutcome := by
  have instant : Document.elapsed (.zero false) (.zero false) = .zero false := by decide +kernel
  have form : sourceForm optionStore (.dict Config.defaults) optionArguments.sourcePath
      optionArguments.shortForm = .ok ("a=1".toList, true) := sourceForm_optionStore
  rw [preprocessFile_eq, form, optionOutcome, ← instant]
  rfl

theorem exists_reportText_optionStore :
    ∃ text, reportText .usual optionStore (.dict Config.defaults) optionArguments [] =
      .ok text := by
  have settings : reportWriter optionArguments (.dict Config.defaults) = .ok {} := rfl
  have number : ({} : Json.Writer).indent = .int 2 := rfl
  have finite : optionOutcome.seconds.magnitude?.isSome := rfl
  rcases Document.write_report_of_inRange .usual number (fun _ ↦ by decide) finite with
    written | ⟨⟨-, crowded⟩, -⟩
  · rw [reportText, preprocessFile_optionStore, settings]
    exact written
  · exact absurd crowded (by decide)

/-- The stave is opened, the report says so, and the cursor moves by what the report says. -/
theorem commands_agree_optionStore :
    Prints (run .usual ["preprocess", "a.tab"] optionStore []) "tabstave a=1\n".toList ∧
    (∃ text, Prints (run .usual ["line-map", "a.tab"] optionStore []) (text ++ ['\n']) ∧
      (Json.read text).bind Document.ReportData.ofJson? = some
        { fileName := some "a.tab", shortForm := true, sourceLineCount := 1, outputLineCount := 1,
          seconds := .zero false, lines := [⟨1, 1, 9, some "stave_options"⟩] }) ∧
    Prints (run .usual (cursorWords "a.tab" 1 0) optionStore [])
      "\x7b\"line\": 1, \"column\": 9\x7d\n".toList := by
  have agree := commands_agree .usual optionStore (.dict Config.defaults)
  have reads : ReadsText optionStore (.dict Config.defaults) optionArguments :=
    readsText_optionStore rfl rfl
  have expanding : Starts ["preprocess", "a.tab"] optionStore (.dict Config.defaults) .preprocess
    optionArguments := starts_of_noConfig rfl rfl _
  have reporting : Starts ["line-map", "a.tab"] optionStore (.dict Config.defaults) .lineMap
    optionArguments := starts_of_noConfig rfl rfl _
  have carrying := starts_optionStore (natAbs_lt_of_digit (n := 0) (by decide) (by decide))
  have expanded := agree.preprocess expanding reads rfl [] []
  rw [preprocessFile_optionStore] at expanded
  have reported := agree.report reporting reads rfl []
  obtain ⟨text, written⟩ := exists_reportText_optionStore
  rw [written] at reported
  have carried := agree.mapCursor carrying (readsText_optionStore rfl rfl) rfl rfl []
  have located : carryOver optionStore (.dict Config.defaults)
    (cursorArguments "a.tab" 1 0).sourcePath (cursorArguments "a.tab" 1 0).shortForm 1 0
    (cursorArguments "a.tab" 1 0).editorPosition = .ok ⟨1, 9⟩ := carryOver_optionStore 0
  rw [located] at carried
  have shown : Cursor.IsShown ⟨1, 9⟩ :=
    ⟨natAbs_lt_of_digit (by decide) (by decide), natAbs_lt_of_digit (by decide) (by decide)⟩
  obtain ⟨writer, outcome, text, settings, preprocessed, -, printed, read, entries⟩ :=
    agree.lineMap reporting reads rfl rfl reported.1
  cases settings
  rw [preprocessFile_optionStore] at preprocessed
  cases preprocessed
  -- The report has one entry, and the cursor that is printed is the one that the entry gives.
  obtain ⟨entry, mem, -, -, goes⟩ := entries 1 (by decide) (by decide)
  obtain rfl := List.mem_singleton.1 mem
  exact ⟨expanded,
    ⟨text, printed, read rfl fun layout laid ↦ Document.isBlank_of_layout (n := 2) rfl laid⟩,
    goes carrying rfl rfl rfl rfl rfl (carried.1 shown).1⟩

/-! ### A column that gets too long -/

theorem natAbs_pow_sub_one_lt (count : Nat) :
    ((Nat.pow 10 count : Nat) - 1 : Int).natAbs < Nat.pow 10 count := by
  have positive : 0 < Nat.pow 10 count := Nat.pow_pos (by decide)
  omega

/-- The largest number that can be read. -/
def longest : Int :=
  Nat.pow 10 Number.maxDigits - 1

theorem not_isShown_longest (line : Int) : ¬Cursor.IsShown ⟨line, longest + 9⟩ := by
  rintro ⟨-, column⟩
  dsimp only [longest] at column
  generalize Nat.pow 10 Number.maxDigits = power at column
  omega

/-- The library carries the cursor in the largest column over, but the command fails. -/
theorem run_longColumn :
    ∃ arguments, Starts (cursorWords "a.tab" 1 longest) optionStore (.dict Config.defaults)
        .mapCursor arguments ∧
      arguments.line = .value 1 ∧ arguments.column = .value longest ∧
      carryOver optionStore (.dict Config.defaults) arguments.sourcePath arguments.shortForm 1
        longest arguments.editorPosition = .ok ⟨1, longest + 9⟩ ∧
      Fails (run .usual (cursorWords "a.tab" 1 longest) optionStore []) := by
  have starts := starts_optionStore (natAbs_pow_sub_one_lt Number.maxDigits)
  have located := carryOver_optionStore longest
  exact ⟨_, starts, rfl, rfl, located,
    (run_mapCursor_of_ok .usual starts rfl rfl [] located).2 (not_isShown_longest 1)⟩

end Tabstave.Cli
