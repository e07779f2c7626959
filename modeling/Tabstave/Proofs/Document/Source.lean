import Tabstave.Document.Source
import Tabstave.Proofs.Document.Report
import Tabstave.Proofs.Files.Store
import Tabstave.Proofs.Text.Utf8

/-!
# What comes of a file

Preprocessing a file and carrying a cursor of it over both start with its source and with whether
that is in short form; `readForm` is this common part. The rest cannot fail: `ofFile_eq` and
`locateInFile_eq` say what it is. Neither depends on the clock, except for the time that it took.

What is loaded is the text whose code points are read (`load_eq_ok_iff`). With the options that come
with no configuration a file is read as UTF-8 (`load_default`).

A cursor that is carried over comes no nearer to the start, so its numbers do not get shorter
(`natAbs_le_locate`).
-/

namespace Tabstave

namespace Stave

/-- Cursors are carried over by the line map, also where the source was let through. -/
theorem locate_expandIf (shortForm : Bool) (source : List Char) (cursor : Cursor) :
    (expandIf shortForm source).locate cursor =
      (expandIf shortForm source).lineMap.locate cursor := by
  cases shortForm with
  | true => rfl
  | false => exact (LineMap.locate_identityFrom _ cursor).symm

theorem numbered_expandIf (shortForm : Bool) (source : List Char) :
    (expandIf shortForm source).lineMap.Numbered := by
  cases shortForm with
  | true => exact numbered_expand source
  | false => exact numbered_passThrough source

/-- A cursor on a line with an entry goes where the entry says. -/
theorem locate_expandIf_of_entry {shortForm : Bool} {source : List Char} {index : Nat}
    {entry : LineMap.Entry} (found : (expandIf shortForm source).lineMap[index]? = some entry)
    {line : Int} (on : line = index + 1) (column : Int) :
    (expandIf shortForm source).locate ⟨line, column⟩ =
      ⟨entry.expandedLine, column + entry.columnOffset⟩ := by
  rw [locate_expandIf, LineMap.locate, LineMap.entry?, if_neg (by dsimp only; omega),
    show (line - 1).toNat = index by omega, found]

/-- No line goes up. -/
theorem sourceLine_le_expandedLine {shortForm : Bool} {source : List Char} {entry : LineMap.Entry}
    (mem : entry ∈ (expandIf shortForm source).lineMap) :
    entry.sourceLine ≤ entry.expandedLine := by
  cases shortForm with
  | true =>
    obtain ⟨index, line, rfl⟩ := exists_eq_layoutEntry_of_mem mem
    exact Nat.add_le_add_right (Nat.le_add_right _ _) 1
  | false =>
    obtain ⟨index, found⟩ := List.mem_iff_getElem?.1 mem
    have found : (passThrough source).lineMap[index]? = some entry := found
    rw [getElem?_lineMap_passThrough, Option.map_eq_some_iff] at found
    obtain ⟨line, -, rfl⟩ := found
    exact Nat.le_refl _

/-- The number of the line gets no shorter when a cursor is carried over. -/
theorem natAbs_le_locate (shortForm : Bool) (source : List Char) (cursor : Cursor) :
    cursor.line.natAbs ≤ ((expandIf shortForm source).locate cursor).line.natAbs := by
  rw [locate_expandIf, LineMap.locate]
  split
  · next entry found =>
    rw [LineMap.entry?] at found
    split_ifs at found with above
    have number := numbered_expandIf shortForm source _ entry found
    have down := sourceLine_le_expandedLine (List.mem_of_getElem? found)
    dsimp only
    omega
  · exact Nat.le_refl _

end Stave

namespace Document

/-- A source with whether it is in short form. -/
def readForm (store : Store) (path : Path) (options : Options) :
    Except Fault (List Char × Bool) := do
  let source ← load store path options
  let demanded := if options.forceShortForm then some true else none
  return (source, ← isShortForm demanded (some path.name) options.shortFormExtensions)

theorem ofFile_eq (store : Store) (path : Path) (options : Options) (clock : Clock) :
    Outcome.ofFile store path options clock = (readForm store path options).map fun form ↦
      Outcome.ofForm form.1 (some path.name) (elapsed clock.read.1 clock.read.2.read.1) form.2 := by
  simp only [Outcome.ofFile, readForm, ofBuffer_eq, bind, Except.bind, pure, Except.pure]
  cases load store path options with
  | error fault => rfl
  | ok source =>
    dsimp only
    cases isShortForm _ _ _ <;> rfl

theorem locateInFile_eq (store : Store) (path : Path) (line column : Int) (options : Options)
    (editor : Bool) :
    locateInFile store path line column options editor = (readForm store path options).map
      fun form ↦ (Stave.expandIf form.2 form.1).locate
        (Cursor.ofPosition form.1 line column editor) := by
  simp only [locateInFile, readForm, ofBuffer_eq, bind, Except.bind, pure, Except.pure]
  cases load store path options with
  | error fault => rfl
  | ok source =>
    dsimp only
    cases isShortForm _ _ _ <;> rfl

/-! ### Reading -/

section Read

variable {store : Store} {path : Path} {encoding : Value} {name : Option String}

/-- Of a file the bytes are decoded, if there is an encoding. -/
theorem contents_of_file (named : encodingName encoding = .ok name) {bytes : List UInt8}
    (found : store.find? path = .ok (some (.file bytes))) :
    contents store path encoding = Except.mapError (unreadable path)
      (encodingOf name >>= fun encoding ↦ encoding.decode bytes) := by
  obtain ⟨noNul, place, resolved⟩ := Store.exists_resolve_of_find? found
  rw [contents, named, Store.read_of_resolve noNul resolved]
  rfl

/-- A file that cannot be opened has no contents, whatever its encoding. -/
theorem contents_of_locked (named : encodingName encoding = .ok name)
    (found : store.find? path = .ok (some .locked)) :
    contents store path encoding =
      .error (.sourceUnreadable path.toString (Fault.file .denied path.toString).message) := by
  obtain ⟨noNul, place, resolved⟩ := Store.exists_resolve_of_find? found
  rw [contents, named, Store.read_of_locked noNul resolved]
  rfl

/-- Of what has the name of a document the contents are read. -/
theorem read_of_named {options : Options} {node : Node}
    (found : store.find? path = .ok (some node)) (file : node.isDirectory = false)
    (named : options.forceShortForm = true ∨
      hasName (some path.name) options.documentExtensions = .ok true) :
    Document.read store path options = contents store path options.encoding := by
  rw [Document.read, found]
  rcases named with forced | named
  · simp only [bind, Except.bind, file, forced]
    rfl
  · simp only [bind, Except.bind, file, named]
    cases options.forceShortForm <;> rfl

/-- What is loaded is the text whose code points are read. -/
theorem load_eq_ok_iff {options : Options} {text : List Char} :
    load store path options = .ok text ↔
      Document.read store path options = .ok (Text.codes text) := by
  rw [load]
  cases Document.read store path options with
  | error fault => exact ⟨nofun, nofun⟩
  | ok points =>
    have same : Text.Encoding.textOf points = .ok text ↔
      (.ok points : Except Fault (List Nat)) = .ok (Text.codes text) := by
      rw [Text.Encoding.textOf_eq_ok_iff, Except.ok.injEq]
    exact same

end Read

theorem encodingName_str {name : String} (noNul : name.contains '\x00' = false) :
    encodingName (.str name) = .ok (some name) := by
  rw [encodingName, noNul, if_neg Bool.false_ne_true]

theorem encodingName_default :
    encodingName Options.default.encoding = .ok (some "utf-8-sig") :=
  encodingName_str (Store.contains_eq_false (by decide))

theorem encodingOf_default : encodingOf (some "utf-8-sig") = .ok .utf8Mark := by
  have noNul : String.contains "utf-8-sig" '\x00' = false := Store.contains_eq_false (by decide)
  rw [encodingOf, Text.Encoding.ofName, noNul, if_neg Bool.false_ne_true]
  rfl

/-- A file with the name of a document is read if its bytes can be decoded. -/
theorem load_default {store : Store} {path : Path} {bytes : List UInt8} {source : List Char}
    (found : store.find? path = .ok (some (.file bytes)))
    (named : hasName (some path.name) Options.default.documentExtensions = .ok true)
    (decoded : Text.Encoding.utf8Mark.decode bytes = .ok (Text.codes source)) :
    load store path .default = .ok source := by
  rw [load_eq_ok_iff, read_of_named found rfl (.inr named),
    contents_of_file encodingName_default found, encodingOf_default]
  exact congrArg (Except.mapError (unreadable path)) decoded

/-! ### Positions -/

/-- The column gets no longer when a position is taken as a caret. -/
theorem natAbs_column_ofPosition (source : List Char) (line column : Int) (editor : Bool) :
    (Cursor.ofPosition source line column editor).column.natAbs ≤ column.natAbs := by
  cases editor with
  | false => exact Nat.le_refl _
  | true =>
    simp only [Cursor.ofPosition, if_true, Cursor.ofEditor]
    omega

end Document

end Tabstave
