import Tabstave.Proofs.Document.Report
import Tabstave.Proofs.Json.Record
import Tabstave.Proofs.Json.RoundTrip

/-!
# Reading a report back

`ReportData` is what a report says, and `ReportData.ofJson?` gets it out of a JSON document: it asks
for the members that a report has, in any order, and for no others. `read_write_report` is the round
trip: reading what a writer has written of a report gives what the outcome says, with the lines that
the writer keeps. How the text is laid out and whether the keys are sorted makes no difference to
what is read, so two reports that are written alike say the same. Nothing is written with an
indentation that no index can have (`write_report_overflow`) or that there is no memory for.
-/

namespace Tabstave.Document

/-- What a report says about a line. -/
structure ReportLine where
  sourceLine : Int
  expandedLine : Int
  columnOffset : Int
  /-- The name of the kind, if the report has the kinds. -/
  kind : Option String
  deriving DecidableEq

/-- What a report says. -/
structure ReportData where
  fileName : Option String
  shortForm : Bool
  sourceLineCount : Int
  outputLineCount : Int
  seconds : Binary64
  lines : List ReportLine
  deriving DecidableEq

namespace ReportLine

/-- What is said about a line by its entry of the line map. -/
def ofEntry (includeKinds : Bool) (entry : LineMap.Entry) : ReportLine :=
  { sourceLine := entry.sourceLine
    expandedLine := entry.expandedLine
    columnOffset := entry.columnOffset
    kind := if includeKinds then some entry.kind.name else none }

/-- Get what is said about a line out of a document. -/
def ofJson? (json : Json) : Option ReportLine :=
  match json.fields? ["original_line", "processed_line", "column_offset", "kind"],
    json.fields? ["original_line", "processed_line", "column_offset"] with
  | some [.int sourceLine, .int expandedLine, .int columnOffset, .str kind], _ =>
    some { sourceLine, expandedLine, columnOffset, kind := some kind }
  | _, some [.int sourceLine, .int expandedLine, .int columnOffset] =>
    some { sourceLine, expandedLine, columnOffset, kind := none }
  | _, _ => none

end ReportLine

namespace ReportData

/-- Get a name out of a document, or that there is none. -/
def name? : Json → Option (Option String)
  | .null => some none
  | .str name => some (some name)
  | _ => none

/-- Get what a report says out of a document. -/
def ofJson? (json : Json) : Option ReportData :=
  match json.fields? ["file_name", "short_form", "source_line_count", "output_line_count",
    "execution_time_seconds", "lines"] with
  | some [name, .bool shortForm, .int sourceLineCount, .int outputLineCount, .float seconds,
      .arr lines] => do
    return {
      fileName := ← name? name
      shortForm, sourceLineCount, outputLineCount, seconds
      lines := ← lines.mapM ReportLine.ofJson? }
  | _ => none

end ReportData

/-- What an outcome says with these lines, with their kinds or without. -/
def Outcome.dataOf (outcome : Outcome) (includeKinds : Bool) (kept : LineMap) : ReportData :=
  { fileName := outcome.fileName
    shortForm := outcome.shortForm
    sourceLineCount := outcome.sourceLineCount
    outputLineCount := outcome.outputLineCount
    seconds := outcome.seconds
    lines := kept.map (ReportLine.ofEntry includeKinds) }

/-- What a writer keeps of what an outcome says. -/
def Outcome.keptData (outcome : Outcome) (writer : Json.Writer) : ReportData :=
  outcome.dataOf writer.includeKinds (keptLines writer.includeUnshifted outcome.lineMap)

/-! ### From a report to a document -/

section ToJson

variable (sortKeys : Bool)

/-- A record of finite values becomes an object with its members and no others. -/
theorem exists_toJson_record {members : List (String × Value)} {named : List (String × Json)}
    (each : List.Forall₂ (Value.MemberToJson sortKeys) members named)
    (single : (named.map Prod.fst).Nodup) (finite : ∀ member ∈ named, member.2.Finite) :
    ∃ json, Value.toJson sortKeys (Value.record members) = .ok json ∧
      json.fields? (named.map Prod.fst) = some (named.map Prod.snd) ∧ json.Finite := by
  obtain ⟨json, done, members, rfl, perm⟩ := Value.yields_toJson_record sortKeys each
  exact ⟨_, done, Json.fields?_of_perm perm single,
    .obj fun member mem ↦ finite member (perm.mem_iff.1 mem)⟩

/-- The members of the object that is written about a line. -/
def ReportLine.members (includeKinds : Bool) (entry : LineMap.Entry) : List (String × Json) :=
  [("original_line", .int entry.sourceLine), ("processed_line", .int entry.expandedLine),
    ("column_offset", .int entry.columnOffset)] ++
      if includeKinds then [("kind", .str entry.kind.name)] else []

theorem exists_toJson_keptEntry (includeKinds : Bool) (entry : LineMap.Entry) :
    ∃ json, Value.toJson sortKeys (keptEntry includeKinds entry) = .ok json ∧
      ReportLine.ofJson? json = some (.ofEntry includeKinds entry) ∧ json.Finite := by
  have each : ∃ members, keptEntry includeKinds entry = Value.record members ∧
      List.Forall₂ (Value.MemberToJson sortKeys) members
        (ReportLine.members includeKinds entry) := by
    cases includeKinds with
    | true => exact ⟨[(_, _), (_, _), (_, _), (_, _)], rfl,
        .cons ⟨rfl, rfl⟩ <| .cons ⟨rfl, rfl⟩ <| .cons ⟨rfl, rfl⟩ <| .cons ⟨rfl, rfl⟩ .nil⟩
    | false => exact ⟨[(_, _), (_, _), (_, _)], rfl,
        .cons ⟨rfl, rfl⟩ <| .cons ⟨rfl, rfl⟩ <| .cons ⟨rfl, rfl⟩ .nil⟩
  have single : ((ReportLine.members includeKinds entry).map Prod.fst).Nodup := by
    cases includeKinds <;> simp [ReportLine.members]
  have finite : ∀ member ∈ ReportLine.members includeKinds entry, member.2.Finite := by
    cases includeKinds <;> simp [ReportLine.members, Json.Finite.int, Json.Finite.str]
  obtain ⟨members, record, each⟩ := each
  obtain ⟨json, done, fields, finite⟩ := exists_toJson_record sortKeys each single finite
  refine ⟨json, record ▸ done, ?_, finite⟩
  cases includeKinds with
  | true =>
    have fields : json.fields? ["original_line", "processed_line", "column_offset", "kind"] =
        some [.int entry.sourceLine, .int entry.expandedLine, .int entry.columnOffset,
          .str entry.kind.name] := fields
    rw [ReportLine.ofJson?, fields]
    rfl
  | false =>
    have fields : json.fields? ["original_line", "processed_line", "column_offset"] =
        some [.int entry.sourceLine, .int entry.expandedLine, .int entry.columnOffset] := fields
    have noKind : json.fields? ["original_line", "processed_line", "column_offset", "kind"] =
        none := Json.fields?_eq_none fields (by decide)
    rw [ReportLine.ofJson?, fields, noKind]
    rfl

theorem exists_toJson_lines (includeKinds : Bool) (kept : LineMap) :
    ∃ jsons, Value.toJson sortKeys (.list (kept.map (keptEntry includeKinds))) = .ok (.arr jsons) ∧
      jsons.mapM ReportLine.ofJson? = some (kept.map (ReportLine.ofEntry includeKinds)) ∧
      (Json.arr jsons).Finite := by
  choose json done read finite using exists_toJson_keptEntry sortKeys includeKinds
  refine ⟨kept.map json, Value.toJson_list sortKeys ?_, List.mapM_eq_pure_of_forall₂ ?_, .arr ?_⟩
  · rw [List.forall₂_map_left_iff, List.forall₂_map_right_iff, List.forall₂_same]
    exact fun entry _ ↦ done entry
  · rw [List.forall₂_map_left_iff, List.forall₂_map_right_iff, List.forall₂_same]
    exact fun entry _ ↦ read entry
  · exact List.forall_mem_map.2 fun entry _ ↦ finite entry

theorem exists_toJson_name (name : Option String) :
    ∃ json, Value.toJson sortKeys ((name.map Value.str).getD .null) = .ok json ∧
      ReportData.name? json = some name ∧ json.Finite := by
  cases name with
  | none => exact ⟨.null, rfl, rfl, .null⟩
  | some name => exact ⟨.str name, rfl, rfl, .str name⟩

/-- A report becomes a document that says the same. -/
theorem exists_toJson_reportOf {outcome : Outcome} (finite : outcome.seconds.magnitude?.isSome)
    (includeKinds : Bool) (kept : LineMap) :
    ∃ json, Value.toJson sortKeys (outcome.reportOf includeKinds kept) = .ok json ∧
      ReportData.ofJson? json = some (outcome.dataOf includeKinds kept) ∧ json.Finite := by
  obtain ⟨name, nameDone, nameRead, nameFinite⟩ := exists_toJson_name sortKeys outcome.fileName
  obtain ⟨lines, linesDone, linesRead, linesFinite⟩ :=
    exists_toJson_lines sortKeys includeKinds kept
  have each : ∃ members, outcome.reportOf includeKinds kept = Value.record members ∧
      List.Forall₂ (Value.MemberToJson sortKeys) members
        [("file_name", name), ("short_form", .bool outcome.shortForm),
          ("source_line_count", .int outcome.sourceLineCount),
          ("output_line_count", .int outcome.outputLineCount),
          ("execution_time_seconds", .float outcome.seconds), ("lines", .arr lines)] :=
    ⟨[(_, _), (_, _), (_, _), (_, _), (_, _), (_, _)], rfl,
      .cons ⟨rfl, nameDone⟩ <| .cons ⟨rfl, rfl⟩ <| .cons ⟨rfl, rfl⟩ <| .cons ⟨rfl, rfl⟩ <|
        .cons ⟨rfl, rfl⟩ <| .cons ⟨rfl, linesDone⟩ .nil⟩
  obtain ⟨members, record, each⟩ := each
  obtain ⟨json, done, fields, jsonFinite⟩ := exists_toJson_record sortKeys each (by simp)
    (by simp [nameFinite, Json.Finite.bool, Json.Finite.int, Json.Finite.float finite, linesFinite])
  have fields : json.fields? ["file_name", "short_form", "source_line_count", "output_line_count",
      "execution_time_seconds", "lines"] =
    some [name, .bool outcome.shortForm, .int outcome.sourceLineCount,
      .int outcome.outputLineCount, .float outcome.seconds, .arr lines] := fields
  refine ⟨json, record ▸ done, ?_, jsonFinite⟩
  rw [ReportData.ofJson?, fields]
  simp only [nameRead, linesRead, Option.bind_eq_bind, Option.bind_some, Option.pure_def]
  rfl

end ToJson

/-! ### Writing -/

section Write

variable {memory : Memory} {writer : Json.Writer} {n : Int}

/-- The layout of a writer that indents by a number of spaces. -/
theorem layout_of_int (memory : Memory) (number : writer.indent = .int n) :
    writer.layout memory =
      if writer.prettyPrint then
        if n < -Json.maxIndent || Json.maxIndent ≤ n then .error .repeatTooOften
        else if n.toNat ≥ memory.refused then .error .outOfMemory
        else .ok (.indented n.toNat [' '])
      else .ok .compact := by
  rw [Json.Writer.layout, number]
  rfl

/-- It indents by white space. -/
theorem isBlank_of_layout (number : writer.indent = .int n) {layout : Json.Layout}
    (h : writer.layout memory = .ok layout) : layout.IsBlank := by
  have spaces : Json.Layout.IsBlank (.indented n.toNat [' ']) :=
    List.forall_mem_singleton.2 rfl
  rw [layout_of_int memory number] at h
  split_ifs at h <;> cases h
  · exact spaces
  · trivial

/-- It is refused for a number that no index can have. -/
theorem layout_eq_repeatTooOften (number : writer.indent = .int n)
    (pretty : writer.prettyPrint = true) (outside : n < -Json.maxIndent ∨ Json.maxIndent ≤ n) :
    writer.layout memory = .error .repeatTooOften := by
  rw [layout_of_int memory number, if_pos pretty, if_pos]
  rwa [Bool.or_eq_true, decide_eq_true_eq, decide_eq_true_eq]

/-- For any other number there is a layout, or more memory is asked for than there is. -/
theorem layout_of_inRange (memory : Memory) (number : writer.indent = .int n)
    (inRange : writer.prettyPrint = true → -Json.maxIndent ≤ n ∧ n < Json.maxIndent) :
    (∃ layout, writer.layout memory = .ok layout ∧ ∀ json,
      layout.isTooWide memory json = true → writer.prettyPrint = true ∧ memory.crowded ≤ n) ∨
    (writer.prettyPrint = true ∧ memory.crowded ≤ n) ∧
      writer.layout memory = .error .outOfMemory := by
  rw [layout_of_int memory number]
  split
  · next pretty =>
    have inside : ¬(n < -Json.maxIndent || Json.maxIndent ≤ n) = true := by
      have bounds := inRange pretty
      rw [Bool.or_eq_true, decide_eq_true_eq, decide_eq_true_eq]
      omega
    have room := memory.room
    rw [if_neg inside]
    split_ifs with refused
    · -- What is refused by itself is also too much to be put together.
      have crowded := memory.crowded_le_refused
      exact .inr ⟨⟨pretty, by omega⟩, rfl⟩
    · refine .inl ⟨_, rfl, fun json wide ↦ ⟨pretty, ?_⟩⟩
      have crowded := of_decide_eq_true (Bool.and_eq_true_iff.1 wide).2
      omega
  · exact .inl ⟨.compact, rfl, nofun⟩

/-- A report becomes a document, which is written unless its layout is refused or too wide. -/
theorem exists_write_report (writer : Json.Writer) (memory : Memory) {outcome : Outcome}
    (finite : outcome.seconds.magnitude?.isSome) :
    ∃ json, json.Finite ∧ ReportData.ofJson? json = some (outcome.keptData writer) ∧
      writer.write memory outcome.report = writer.layout memory >>= fun layout ↦
        if layout.isTooWide memory json then .error .outOfMemory
        else .ok (Json.render layout 0 json) := by
  obtain ⟨json, done, read, jsonFinite⟩ := exists_toJson_reportOf writer.sortKeys finite
    writer.includeKinds (keptLines writer.includeUnshifted outcome.lineMap)
  refine ⟨json, jsonFinite, read, ?_⟩
  rw [Json.Writer.write, select_report]
  change (writer.layout memory >>= fun layout ↦ Value.toJson writer.sortKeys (outcome.reportOf
    writer.includeKinds (keptLines writer.includeUnshifted outcome.lineMap)) >>= _) = _
  rw [done]
  cases writer.layout memory with
  | error fault => rfl
  | ok layout =>
    cases wide : layout.isTooWide memory json <;> simp [bind, Except.bind, wide] <;> rfl

/-- A report is written, or more memory is asked for than there is, if the number of spaces is one
that an index can have. -/
theorem write_report_of_inRange (memory : Memory) (number : writer.indent = .int n)
    (inRange : writer.prettyPrint = true → -Json.maxIndent ≤ n ∧ n < Json.maxIndent)
    {outcome : Outcome} (finite : outcome.seconds.magnitude?.isSome) :
    (∃ text, writer.write memory outcome.report = .ok text) ∨
    (writer.prettyPrint = true ∧ memory.crowded ≤ n) ∧
      writer.write memory outcome.report = .error .outOfMemory := by
  obtain ⟨json, -, -, written⟩ := exists_write_report writer memory finite
  rcases layout_of_inRange memory number inRange with ⟨layout, laid, fits⟩ | ⟨crowded, refused⟩
  · rw [written, laid]
    cases wide : layout.isTooWide memory json with
    | false =>
      refine .inl ⟨Json.render layout 0 json, ?_⟩
      simp only [bind, Except.bind, wide, Bool.false_eq_true, if_false]
    | true => exact .inr ⟨fits json wide, by simp only [bind, Except.bind, wide, if_true]⟩
  · exact .inr ⟨crowded, by rw [written, refused]; rfl⟩

/-- What a writer that indents by white space has written of a report, says what it keeps. -/
theorem read_of_write_report
    (blank : ∀ layout, writer.layout memory = .ok layout → layout.IsBlank)
    {outcome : Outcome} (finite : outcome.seconds.magnitude?.isSome) {text : List Char}
    (done : writer.write memory outcome.report = .ok text) :
    (Json.read text).bind ReportData.ofJson? = some (outcome.keptData writer) := by
  obtain ⟨json, jsonFinite, read, written⟩ := exists_write_report writer memory finite
  rw [done] at written
  cases laid : writer.layout memory with
  | error fault => rw [laid] at written; cases written
  | ok layout =>
    simp only [laid, bind, Except.bind] at written
    split at written
    · cases written
    · cases written
      rw [Json.read_render (blank layout laid) jsonFinite, Option.bind_some, read]

end Write

/-- **A report is written and read back**, whatever it is about and however it is laid out. It is
refused for a number of spaces that no index can have, and otherwise only if more memory is asked
for than there is. Reading gives what the writer keeps of the outcome, so what is written alike says
the same. -/
theorem read_write_report (memory : Memory) {outcome : Outcome}
    (finite : outcome.seconds.magnitude?.isSome) {writer : Json.Writer} {n : Int}
    (number : writer.indent = .int n) :
    (writer.prettyPrint = true → n < -Json.maxIndent ∨ Json.maxIndent ≤ n →
      writer.write memory outcome.report = .error .repeatTooOften) ∧
    ((writer.prettyPrint = true → -Json.maxIndent ≤ n ∧ n < Json.maxIndent) →
      (∃ text, writer.write memory outcome.report = .ok text) ∨
      (writer.prettyPrint = true ∧ memory.crowded ≤ n) ∧
        writer.write memory outcome.report = .error .outOfMemory) ∧
    ∀ text, writer.write memory outcome.report = .ok text →
      (Json.read text).bind ReportData.ofJson? = some (outcome.keptData writer) ∧
      ∀ other : Outcome, other.seconds.magnitude?.isSome →
        writer.write memory other.report = .ok text →
          other.keptData writer = outcome.keptData writer := by
  refine ⟨fun pretty outside ↦ ?_,
    fun inRange ↦ write_report_of_inRange memory number inRange finite, fun text done ↦ ?_⟩
  · obtain ⟨json, -, -, written⟩ := exists_write_report writer memory finite
    rw [written, layout_eq_repeatTooOften number pretty outside]
    rfl
  · have blank : ∀ layout, writer.layout memory = .ok layout → layout.IsBlank :=
      fun layout laid ↦ isBlank_of_layout number laid
    have read := read_of_write_report blank finite done
    refine ⟨read, fun other otherFinite same ↦ ?_⟩
    exact Option.some.inj ((read_of_write_report blank otherFinite same).symm.trans read)

/-- A name with a quote and a line feed is read back, as are the lines. -/
theorem read_write_report_quoted :
    ∃ text, ({} : Json.Writer).write .usual
        (Outcome.ofForm "a=1".toList (some "\"\n.tab") (.zero false) true).report = .ok text ∧
      (Json.read text).bind ReportData.ofJson? = some
        { fileName := some "\"\n.tab", shortForm := true, sourceLineCount := 1,
          outputLineCount := 1, seconds := .zero false,
          lines := [⟨1, 1, 9, some "stave_options"⟩] } := by
  have round := @read_write_report .usual
    (Outcome.ofForm "a=1".toList (some "\"\n.tab") (.zero false) true) rfl {} 2 rfl
  rcases round.2.1 fun _ ↦ by decide with ⟨text, done⟩ | ⟨⟨-, crowded⟩, -⟩
  · exact ⟨text, done, (round.2.2 text done).1⟩
  · exact absurd crowded (by decide)

/-- A number of spaces that no index can have is refused, even if it is negative and no spaces are
asked for. -/
theorem write_report_overflow :
    ∃ outcome, Outcome.ofBuffer "a=1".toList (some "a.tab") .default [] = .ok outcome ∧
      outcome.seconds.magnitude?.isSome ∧
      ({ indent := .int (-9223372036854775809) } : Json.Writer).write .usual outcome.report =
        .error .repeatTooOften := by
  have instant : elapsed (.zero false) (.zero false) = .zero false := by decide +kernel
  have named : isNamed shortFormExtensions (some "a.tab") = true := by decide +kernel
  have tested := hasName_texts (some "a.tab") shortFormExtensions
  rw [named] at tested
  refine ⟨Outcome.ofForm "a=1".toList (some "a.tab") (.zero false) true, ?_, rfl, rfl⟩
  rw [ofBuffer_eq, ← instant]
  exact congrArg (Except.map _) tested

end Tabstave.Document
