import Tabstave.Proofs.Document.Passes
import Tabstave.Proofs.Stave.Moved

/-!
# What a report keeps

A report is the data of an outcome, and a writer leaves parts of it out: the lines that did not
move, the kinds of the lines, or both. The test for a line that moved reads the numbers off the data, and
`select_report` says that it comes to the test on the line map itself. So what a writer selects is
again a report, `Outcome.reportOf`, of the entries that it keeps.

Which entries a report of changes keeps depends on nothing but the source: none if it was let
through, all from the line on in front of which an opener was put in, and without such an opener the
lines of stave options. The places of all lines can be got back from these
(`select_changes_ofBuffer`).
-/

namespace Tabstave.Document

/-- An entry of a line map as a report has it, with its kind or without. -/
def keptEntry (includeKinds : Bool) (entry : LineMap.Entry) : Value :=
  .dict <| [(.str "original_line", .int entry.sourceLine),
    (.str "processed_line", .int entry.expandedLine),
    (.str "column_offset", .int entry.columnOffset)] ++
      if includeKinds then [(.str "kind", .lineKind entry.kind)] else []

/-- The entries of a report, given what it says about the lines. -/
def Outcome.reportEntries (outcome : Outcome) (lines : Value) : List (Value × Value) :=
  [(.str "file_name", (outcome.fileName.map Value.str).getD .null),
    (.str "short_form", .bool outcome.shortForm),
    (.str "source_line_count", .int outcome.sourceLineCount),
    (.str "output_line_count", .int outcome.outputLineCount),
    (.str "execution_time_seconds", .float outcome.seconds),
    (.str "lines", lines)]

/-- The data of a report that has only these lines. -/
def Outcome.reportOf (outcome : Outcome) (includeKinds : Bool) (kept : LineMap) : Value :=
  .dict (outcome.reportEntries (.list (kept.map (keptEntry includeKinds))))

/-- The lines that a writer keeps. -/
def keptLines (includeUnshifted : Bool) (map : LineMap) : LineMap :=
  map.filter fun entry ↦ includeUnshifted || entry.isShifted

theorem keptLines_cons (includeUnshifted : Bool) (entry : LineMap.Entry) (map : LineMap) :
    keptLines includeUnshifted (entry :: map) =
      if includeUnshifted || entry.isShifted then entry :: keptLines includeUnshifted map
      else keptLines includeUnshifted map :=
  List.filter_cons

theorem keptLines_true (map : LineMap) : keptLines true map = map :=
  List.filter_eq_self.2 fun _ _ ↦ rfl

theorem keptLines_false (map : LineMap) : keptLines false map = map.moved :=
  List.filter_congr fun _ _ ↦ rfl

/-! ### Selecting -/

/-- Two counts are the same number if they are equal. -/
theorem same_natCast (m n : Nat) : (Value.int m).same (.int n) = (m == n) := by
  have numbers : (Value.int m).same (.int n) = ((m : Int) == n) := rfl
  rw [numbers, Bool.eq_iff_iff, beq_iff_eq, beq_iff_eq, Int.natCast_inj]

/-- Reading the numbers of an entry off its data tells whether its line moved. -/
theorem isShifted_reportEntry (entry : LineMap.Entry) :
    Json.isShifted (reportEntry entry) = .ok entry.isShifted := by
  have read : Json.isShifted (reportEntry entry) =
      .ok (!(Value.int entry.sourceLine).same (.int entry.expandedLine) ||
        !(Value.int entry.columnOffset).same (.int (0 : Nat))) :=
    rfl
  rw [read, same_natCast, same_natCast]
  rfl

theorem keptEntries_reportEntry (includeKinds includeUnshifted : Bool) (map : LineMap) :
    Json.keptEntries includeKinds includeUnshifted (map.map reportEntry) =
      .ok ((keptLines includeUnshifted map).map (keptEntry includeKinds)) := by
  induction map with
  | nil => rfl
  | cons entry map ih =>
    have tested := isShifted_reportEntry entry
    rw [List.map_cons, Json.keptEntries, ih]
    cases includeUnshifted with
    | true => cases includeKinds <;> rfl
    | false =>
      rw [if_neg Bool.false_ne_true, tested, keptLines_cons, Bool.false_or]
      cases entry.isShifted with
      | true => cases includeKinds <;> rfl
      | false => rfl

/-- **What a writer selects of a report is the report of the lines that it keeps.** -/
theorem select_report (writer : Json.Writer) (outcome : Outcome) :
    writer.select outcome.report =
      .ok (outcome.reportOf writer.includeKinds
        (keptLines writer.includeUnshifted outcome.lineMap)) := by
  rw [Json.Writer.select]
  split
  · next all =>
    obtain ⟨kinds, unshifted⟩ := Bool.and_eq_true_iff.1 all
    rw [kinds, unshifted, keptLines_true]
    rfl
  · have lines : Value.find? (.str "lines")
        (outcome.reportEntries (.list (outcome.lineMap.map reportEntry))) =
          some (.list (outcome.lineMap.map reportEntry)) := rfl
    have entries : Json.entriesOf outcome.report =
        .ok (outcome.reportEntries (.list (outcome.lineMap.map reportEntry))) := rfl
    simp only [bind, Except.bind, entries, lines, keptEntries_reportEntry]
    rfl

/-! ### Preprocessing a buffer -/

/-- What comes of a buffer, once it is known whether it is in short form and how long it took. -/
def Outcome.ofForm (source : List Char) (name : Option String) (seconds : Binary64)
    (shortForm : Bool) : Outcome :=
  let expansion := Stave.expandIf shortForm source
  { fileName := name, shortForm, text := expansion.text, lineMap := expansion.lineMap,
    sourceLineCount := expansion.lineMap.length, outputLineCount := expansion.lineCount, seconds,
    expansion := some expansion }

/-- Preprocessing fails only where the name cannot be told to be of short form. -/
theorem ofBuffer_eq (source : List Char) (name : Option String) (options : Options)
    (clock : Clock) :
    Outcome.ofBuffer source name options clock =
      (isShortForm (if options.forceShortForm then some true else none) name
        options.shortFormExtensions).map
          (Outcome.ofForm source name (elapsed clock.read.1 clock.read.2.read.1)) := by
  simp only [Outcome.ofBuffer, expandNamed, bind, Except.bind, pure, Except.pure]
  cases isShortForm (if options.forceShortForm then some true else none) name
    options.shortFormExtensions with
  | error fault => rfl
  | ok shortForm => simp only [Except.map, Outcome.ofForm, Stave.shortForm_expandIf]

theorem exists_ofForm_of_ofBuffer {source : List Char} {name : Option String} {options : Options}
    {clock : Clock} {outcome : Outcome}
    (h : Outcome.ofBuffer source name options clock = .ok outcome) :
    ∃ seconds shortForm, outcome = Outcome.ofForm source name seconds shortForm := by
  rw [ofBuffer_eq] at h
  cases form : isShortForm (if options.forceShortForm then some true else none) name
    options.shortFormExtensions with
  | error fault => rw [form] at h; cases h
  | ok shortForm =>
    rw [form] at h
    cases h
    exact ⟨_, shortForm, rfl⟩

/-- With extensions that are texts, preprocessing a buffer does not fail. -/
theorem exists_ofBuffer_texts (source : List Char) (name : Option String) {options : Options}
    (clock : Clock) {extensions : List String}
    (texts : options.shortFormExtensions = .tuple (extensions.map .str)) :
    ∃ outcome, Outcome.ofBuffer source name options clock = .ok outcome := by
  rw [ofBuffer_eq, texts]
  cases options.forceShortForm with
  | true => exact ⟨_, rfl⟩
  | false => exact ⟨_, congrArg _ (hasName_texts name extensions)⟩

/-! ### Reports of changes -/

/-- A report of changes on the outcome of a source keeps these entries. -/
structure Outcome.KeepsChanges (outcome : Outcome) (source : List Char) (kept : LineMap) :
    Prop where
  /-- They are selected whether the kinds are or not. -/
  selected : ∀ writer : Json.Writer, writer.includeUnshifted = false →
    writer.select outcome.report = .ok (outcome.reportOf writer.includeKinds kept)
  inOrder : kept.Sublist outcome.lineMap
  passedThrough : outcome.shortForm = false → kept = []
  /-- Where an opener was put in, they are of the lines from there to the last one. -/
  inserted : outcome.shortForm = true → ∀ index, (Stave.expand source).InsertedBefore index →
    kept = outcome.lineMap.drop index ∧
      kept.map (·.sourceLine) = List.range' (index + 1) (outcome.sourceLineCount - index)
  notInserted : outcome.shortForm = true → (∀ index, ¬(Stave.expand source).InsertedBefore index) →
    kept = outcome.lineMap.filter fun entry ↦ entry.kind = .staveOptions
  /-- The places of all lines can be got back from those of the lines that are kept. -/
  restored : LineMap.restore outcome.sourceLineCount (kept.map (·.place)) =
    outcome.lineMap.map (·.place)

theorem keepsChanges_ofForm (source : List Char) (name : Option String) (seconds : Binary64)
    (shortForm : Bool) :
    let outcome := Outcome.ofForm source name seconds shortForm
    outcome.KeepsChanges source outcome.lineMap.moved := by
  intro outcome
  refine ⟨fun writer changes ↦ ?_, List.filter_sublist, ?_, ?_, ?_, ?_⟩
  · rw [select_report, changes, keptLines_false]
  · rintro rfl
    exact Stave.moved_passThrough source
  · rintro rfl index inserted
    obtain ⟨needs, rfl⟩ := (Stave.insertedBefore_expand_iff source index).1 inserted
    have from_there := Stave.moved_expand_of_needsOpener needs
    exact ⟨from_there, (congrArg _ from_there).trans
      ((Stave.numbered_expand source).map_sourceLine_drop _)⟩
  · rintro rfl none
    refine Stave.moved_expand_of_not_needsOpener (Bool.eq_false_iff.2 fun needs ↦ ?_)
    exact none _ ((Stave.insertedBefore_expand_iff source _).2 ⟨needs, rfl⟩)
  · have numbered : outcome.lineMap.Numbered := by
      cases shortForm with
      | true => exact Stave.numbered_expand source
      | false => exact Stave.numbered_passThrough source
    exact numbered.restore_moved

/-- **A report of changes is exact and loses nothing.** -/
theorem select_changes_ofBuffer (source : List Char) (name : Option String) (options : Options)
    (clock : Clock) :
    (∀ extensions : List String, options.shortFormExtensions = .tuple (extensions.map .str) →
      ∃ outcome, Outcome.ofBuffer source name options clock = .ok outcome) ∧
    ∀ outcome, Outcome.ofBuffer source name options clock = .ok outcome →
      ∃ kept, outcome.KeepsChanges source kept := by
  refine ⟨fun extensions texts ↦ exists_ofBuffer_texts source name clock texts,
    fun outcome done ↦ ?_⟩
  obtain ⟨seconds, shortForm, rfl⟩ := exists_ofForm_of_ofBuffer done
  exact ⟨_, keepsChanges_ofForm source name seconds shortForm⟩

end Tabstave.Document
