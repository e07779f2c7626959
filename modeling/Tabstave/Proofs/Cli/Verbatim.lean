import Tabstave.Proofs.Cli.Files
import Tabstave.Proofs.Document.Name
import Tabstave.Proofs.Stave.Shape
import Tabstave.Proofs.Text.Utf8

/-!
# Documents in explicit form

A document in explicit form is let through, so the file that the command writes for it has the same
bytes, whatever its line breaks are; only a byte order mark in front is lost. Reading and writing
meet in the bytes of a text: what is read of valid UTF-8 are the characters that these bytes encode
(`exists_readForm_explicit`), and what is written encodes them again (`copy_explicit`).
-/

namespace Tabstave

namespace Document

/-! ### The library -/

section Explicit

variable {store : Store} {path : Path} {bytes : List UInt8} (explicit : IsExplicitName path.name)
  (found : store.find? path = .ok (some (.file bytes))) (valid : bytes.toByteArray.IsValidUTF8)

include explicit found valid

/-- What is read of a document in explicit form is not in short form, and encodes to its bytes
without their mark. -/
theorem exists_readForm_explicit :
    ∃ source, readForm store path .default = .ok (source, false) ∧
      Text.Utf8.encode source = Text.Utf8.dropMark bytes := by
  obtain ⟨text, rfl⟩ := Text.Utf8.isValidUTF8_iff.1 valid
  obtain ⟨source, decoded, same⟩ := Text.Utf8.exists_decode_utf8Mark text
  refine ⟨source, ?_, same⟩
  have named := explicit.hasName_documentExtensions
  have notShort := explicit.hasName_shortFormExtensions
  rw [readForm, load_default found named decoded]
  exact congrArg (Except.map (source, ·)) notShort

/-- A document in explicit form keeps its bytes, but for their mark, and its cursors, and has one
line more than there are line feeds. -/
theorem exists_ofFile_explicit (clock : Clock) :
    ∃ outcome, Outcome.ofFile store path .default clock = .ok outcome ∧
      Text.Utf8.encode outcome.text = Text.Utf8.dropMark bytes ∧
      (∀ cursor, outcome.locate cursor = cursor) ∧
      outcome.sourceLineCount = bytes.count 0x0a + 1 ∧
      outcome.outputLineCount = bytes.count 0x0a + 1 := by
  obtain ⟨source, form, encoded⟩ := exists_readForm_explicit explicit found valid
  have lines : (Text.splitLines source).length = bytes.count 0x0a + 1 := by
    rw [Text.length_splitLines, ← Text.Utf8.count_encode, encoded, Text.Utf8.count_dropMark]
  let outcome : Outcome := .ofForm source (some path.name)
    (elapsed clock.read.1 clock.read.2.read.1) false
  refine ⟨outcome, ?_, encoded, fun _ ↦ rfl, ?_, ?_⟩
  · rw [ofFile_eq, form]
    rfl
  · exact (Stave.length_lineMap_expandIf false source).trans lines
  · exact (Stave.lineCount_passThrough source).trans lines

end Explicit

end Document

namespace Cli

/-! ### The name of the output -/

theorem length_stemOf_le (name : List Char) : (Path.stemOf name).length ≤ name.length := by
  have parts : (name.reverse.takeWhile (· != '.')).length +
      (name.reverse.dropWhile (· != '.')).length = name.length := by
    rw [← List.length_append, List.takeWhile_append_dropWhile, List.length_reverse]
  rw [Path.stemOf, List.span_eq_takeWhile_dropWhile]
  split
  · exact Nat.le_refl _
  · exact Nat.le_refl _
  · exact Nat.le_refl _
  · next same =>
    rw [Prod.mk.injEq] at same
    rw [same.2, List.length_cons] at parts
    rw [List.length_reverse]
    omega

/-- The name of a file that there is, without its extension, is at most as long as names may be. -/
theorem length_stem_le {store : Store} {path : Path} {reached : Place × Option Node}
    (resolved : store.resolve path = .ok reached) :
    path.stem.toList.length ≤ Store.maxNameBytes := by
  have name : path.name.utf8ByteSize ≤ Store.maxNameBytes := by
    rw [Path.name]
    cases last : path.names.getLast? with
    | none => exact Nat.zero_le _
    | some name => exact Store.utf8ByteSize_le_of_resolve resolved name (List.mem_of_getLast? last)
  rw [Path.stem, String.toList_ofList]
  exact (length_stemOf_le _).trans ((Text.Utf8.length_toList_le_utf8ByteSize _).trans name)

/-- The pattern of output names puts an extension behind what stands for the source. -/
theorem fill_outputFilename (memory : Memory) (stem : String)
    (short : stem.toList.length ≤ Store.maxNameBytes) :
    NamePattern.fill memory [("stem", stem)] Command.preprocess.outputFilename =
      .ok (stem ++ ".vt") := by
  have laid : NamePattern.fillWithin memory [("stem", stem)] 2
      Command.preprocess.outputFilename.toList =
      NamePattern.join memory [{ body := stem.toList }, { body := ".vt".toList }] := rfl
  -- Names are short, so that putting together what was laid out cannot fail.
  have fits : ¬memory.crowded ≤ stem.toList.length + 3 := by
    have room := memory.room
    have most : Store.maxNameBytes = 255 := rfl
    omega
  have joined : NamePattern.join memory [{ body := stem.toList }, { body := ".vt".toList }] =
      .ok (stem ++ ".vt").toList := by
    rw [NamePattern.join, if_neg]
    · simp [NamePattern.Laid.toList]
    · simpa [NamePattern.Laid.length] using fits
  rw [NamePattern.fill, laid, joined]
  exact congrArg Except.ok String.ofList_toList

/-- Without another pattern the output has the name of the source with the extension of documents in
explicit form. -/
theorem outputPath_absent (memory : Memory) {arguments : Arguments}
    (noPattern : arguments.outputFilename = .absent) (directory : Path)
    (short : arguments.sourcePath.stem.toList.length ≤ Store.maxNameBytes) :
    outputPath memory .preprocess arguments directory =
      .ok (directory.join (Path.ofString (arguments.sourcePath.stem ++ ".vt"))) := by
  rw [outputPath, noPattern]
  dsimp only
  rw [fill_outputFilename memory _ short]
  rfl

/-! ### Runs -/

theorem exists_emitText_of_writeText {memory : Memory} {arguments : Arguments}
    {directory target : Path} {outcome : Document.Outcome} {session : Session} {after : Store}
    (given : arguments.outputDir.get? = some directory)
    (path : outputPath memory .preprocess arguments directory = .ok target)
    (written : session.store.writeText target outcome.text = .ok after) :
    ∃ ended, emitText memory arguments outcome session = (ended, .ok ()) ∧ ended.store = after := by
  rw [emitText.eq_def, Given.eq_value_of_get? given]
  dsimp only
  rw [path]
  dsimp only
  rw [written]
  dsimp only
  split_ifs
  · exact ⟨_, rfl, Session.store_log ..⟩
  · exact ⟨_, rfl, (Session.store_print ..).trans (Session.store_log ..)⟩

/-- Where the output of a source goes in a directory. -/
def copyPath (source directory : Path) : Path :=
  directory.join (Path.ofString (source.stem ++ ".vt"))

/-- A command line asks for a document in explicit form to be preprocessed into a directory, with
nothing else changed. The document can be read, the directory can be made, and in it a file with the
name of the output can be written. -/
structure Copies (words : List String) (arguments : Arguments) (directory : Path)
    (bytes : List UInt8) (store made : Store) : Prop where
  understood : Invocation.ofWords words = .run .preprocess arguments
  noConfig : arguments.config.get? = none
  noShortForm : arguments.shortForm = false
  noPattern : arguments.outputFilename = .absent
  given : arguments.outputDir.get? = some directory
  explicit : Document.IsExplicitName arguments.sourcePath.name
  source : store.find? arguments.sourcePath = .ok (some (.file bytes))
  valid : bytes.toByteArray.IsValidUTF8
  making : store.makeDirectories directory = (made, .ok ())
  writable : ∃ other after, made.write (copyPath arguments.sourcePath directory) other = .ok after

section Copies

variable {words : List String} {arguments : Arguments} {directory : Path} {bytes : List UInt8}
  {store made : Store} (copies : Copies words arguments directory bytes store made)

include copies

theorem Copies.outputPath_eq (memory : Memory) : outputPath memory .preprocess arguments directory =
    .ok (copyPath arguments.sourcePath directory) := by
  obtain ⟨-, place, resolved⟩ := Store.exists_resolve_of_find? copies.source
  exact outputPath_absent memory copies.noPattern directory (length_stem_le resolved)

theorem Copies.found_made : made.find? arguments.sourcePath = .ok (some (.file bytes)) := by
  have along := store.madeAlong_makeDirectories directory
  rw [copies.making] at along
  exact along.find?_of_some copies.source

/-- The source is preprocessed as the library does it with the options left as they are. -/
theorem Copies.sourceForm_eq {source : List Char}
    (form : Document.readForm made arguments.sourcePath .default = .ok (source, false)) :
    sourceForm made (.dict Config.defaults) arguments.sourcePath arguments.shortForm =
      .ok (source, false) := by
  have options : Config.options (.dict Config.defaults) false = .ok .default := rfl
  rw [sourceForm, copies.noShortForm, options]
  exact form

/-- With the directory made, the bytes without their mark are written. -/
theorem Copies.exists_perform (memory : Memory) {session : Session} (ready : session.store = made) :
    ∃ ended, perform memory .preprocess arguments (.dict Config.defaults) session =
        (ended, .exit 0) ∧
      made.write (copyPath arguments.sourcePath directory) (Text.Utf8.dropMark bytes) =
        .ok ended.store := by
  obtain ⟨source, form, encoded⟩ :=
    Document.exists_readForm_explicit copies.explicit copies.found_made copies.valid
  -- Whether a file can be written does not depend on its bytes, so these can be.
  obtain ⟨other, _, writable⟩ := copies.writable
  obtain ⟨after, written⟩ := Store.exists_write_of_write writable (Text.Utf8.dropMark bytes)
  subst ready
  obtain ⟨session', -, kept, done, -⟩ :=
    exists_perform_of_ok .preprocess session memory (copies.sourceForm_eq form)
  have toFile : session'.store.writeText (copyPath arguments.sourcePath directory)
      (outcomeOf arguments.sourcePath session.clock (source, false)).text = .ok after := by
    rw [kept, Store.writeText, ← written, ← encoded]
    rfl
  obtain ⟨ended, emitted, stored⟩ :=
    exists_emitText_of_writeText copies.given (copies.outputPath_eq memory) toFile
  exact ⟨ended, done ended emitted, stored ▸ written⟩

theorem Copies.exists_handle (memory : Memory) {session : Session}
    (initial : session.store = store) :
    ∃ ended, handle memory .preprocess arguments session = (ended, .exit 0) ∧
      made.write (copyPath arguments.sourcePath directory) (Text.Utf8.dropMark bytes) =
        .ok ended.store := by
  have making : session.store.makeDirectories directory = (made, .ok ()) :=
    initial ▸ copies.making
  have all : ∀ other, arguments.outputDir.get? = some other →
      (session.store.makeDirectories other).2 = .ok () := by
    intro other given
    rw [copies.given] at given
    cases given
    exact congrArg Prod.snd making
  obtain ⟨ready, goesOn, store⟩ := exists_prepareOutput all
  have ready_made : ready.store = made := by
    rw [store, prepared, copies.given]
    exact congrArg Prod.fst making
  rw [handle, goesOn]
  dsimp only
  rw [load_defaults copies.noConfig]
  exact copies.exists_perform memory ready_made

theorem Copies.exists_run (memory : Memory) (clock : Document.Clock) :
    ∃ ended, run memory words store clock = (ended, .exit 0) ∧
      made.write (copyPath arguments.sourcePath directory) (Text.Utf8.dropMark bytes) =
        .ok ended.store := by
  obtain ⟨rank, level⟩ := exists_threshold_defaults arguments
  have logging : Config.load store arguments.config.get? >>= threshold arguments = .ok rank := by
    rw [load_defaults copies.noConfig]
    exact level
  rw [run, copies.understood]
  dsimp only
  rw [start_of_ok { store, clock } logging]
  exact copies.exists_handle memory rfl

end Copies

/-- **A document in explicit form is copied byte for byte, but for its byte order mark.** The run
ends well and writes the bytes; and what the library makes of the file encodes to them, keeps every
cursor, and has as many lines as the file. -/
theorem copy_explicit {words : List String} {arguments : Arguments} {directory : Path}
    {bytes : List UInt8} {store made : Store}
    (copies : Copies words arguments directory bytes store made) (memory : Memory)
    (clock : Document.Clock) :
    (run memory words store clock).2 = .exit 0 ∧
      made.write (copyPath arguments.sourcePath directory) (Text.Utf8.dropMark bytes) =
        .ok (run memory words store clock).1.store ∧
      (run memory words store clock).1.store.read (copyPath arguments.sourcePath directory) =
        .ok (Text.Utf8.dropMark bytes) ∧
      ∃ outcome, Document.Outcome.ofFile store arguments.sourcePath .default clock = .ok outcome ∧
        Text.Utf8.encode outcome.text = Text.Utf8.dropMark bytes ∧
        (∀ cursor, outcome.locate cursor = cursor) ∧
        outcome.sourceLineCount = bytes.count 0x0a + 1 ∧
        outcome.outputLineCount = bytes.count 0x0a + 1 := by
  obtain ⟨ended, done, written⟩ := copies.exists_run memory clock
  rw [done]
  exact ⟨rfl, written, Store.read_of_write written,
    Document.exists_ofFile_explicit copies.explicit copies.source copies.valid clock⟩

/-! ### A file with a mark and breaks of both kinds -/

/-- A mark, a letter of two bytes, and three lines. -/
def mixedBytes : List UInt8 :=
  Text.Utf8.byteOrderMark ++ [0xc3, 0xa9, 0x0d, 0x0a, 0x62, 0x0d, 0x63, 0x0a]

/-- A file system with one file, in explicit form. -/
def mixedStore : Store :=
  { nodes := [(["a.vt"], .file mixedBytes)], working := [] }

theorem copies_mixedStore : Copies ["preprocess", "a.vt", "-o", "out"]
    { source := some (Path.ofString "a.vt"), outputDir := .value (Path.ofString "out") }
    (Path.ofString "out") mixedBytes mixedStore (mixedStore.put ["out"] .directory) where
  understood := rfl
  noConfig := rfl
  noShortForm := rfl
  noPattern := rfl
  given := rfl
  explicit := .inl (by decide +kernel)
  source := Store.find?_of_resolve (Store.hasNul_eq_false (by decide +kernel)) rfl
  valid := Text.Utf8.isValidUTF8_iff.2 ⟨"\ufeffé\r\nb\rc\n".toList, by decide +kernel⟩
  making := by
    rw [Store.makeDirectories, Store.hasNul_eq_false (by decide +kernel), if_neg Bool.false_ne_true]
    rfl
  writable := by
    refine ⟨[], (mixedStore.put ["out"] .directory).put ["out", "a.vt"] (.file []), ?_⟩
    rw [Store.write, Store.hasNul_eq_false (by decide +kernel), if_neg Bool.false_ne_true]
    rfl

theorem copy_explicit_mixedStore :
    (run .usual ["preprocess", "a.vt", "-o", "out"] mixedStore []).2 = .exit 0 ∧
      (run .usual ["preprocess", "a.vt", "-o", "out"] mixedStore []).1.store.read
        (Path.ofString "out/a.vt") = .ok [0xc3, 0xa9, 0x0d, 0x0a, 0x62, 0x0d, 0x63, 0x0a] := by
  obtain ⟨well, -, read, -⟩ := copy_explicit copies_mixedStore .usual []
  exact ⟨well, read⟩

end Cli

end Tabstave
