import Tabstave.Proofs.Document.Source
import Tabstave.Proofs.Text.Encoding
import Tabstave.Proofs.Text.Utf8

/-!
# All that can come of reading a source

Options have extensions that are texts, and name an encoding (`TextOptions`). Then `Reads` says for
each case what comes of reading a source, and `read_iff_reads` that there are no other cases. What
is read are the code points that the bytes stand for and nothing else: a text in UTF-8 comes back
with its line breaks.

A reader tells why a source cannot be used if it is missing, is no file, is no document, cannot be
opened, or has bytes with a flaw. Not all faults are told so (`IsUntold`): a path can be too long to
look for or lead through a directory that is closed, a name can be that of no encoding, and bytes
can fail to be a text as a whole. These come out as they are (`read_unknownEncoding`).
-/

namespace Tabstave.Document

open Text (Encoding)

/-- Options whose extensions are texts, and which name an encoding. -/
structure TextOptions where
  shortFormExtensions : List String := Document.shortFormExtensions
  documentExtensions : List String := Document.documentExtensions
  forceShortForm : Bool := false
  encoding : String := "utf-8-sig"

namespace TextOptions

def toOptions (options : TextOptions) : Options where
  shortFormExtensions := .tuple (options.shortFormExtensions.map .str)
  documentExtensions := .tuple (options.documentExtensions.map .str)
  forceShortForm := options.forceShortForm
  encoding := .str options.encoding

/-- A file of this name counts as a document. -/
def Accepts (options : TextOptions) (name : String) : Prop :=
  options.forceShortForm = true ∨ isNamed options.documentExtensions (some name) = true

end TextOptions

/-- The source is a document, which may be there and yet not be opened. -/
structure IsDocument (store : Store) (path : Path) (options : TextOptions) (node : Node) :
    Prop where
  found : store.find? path = .ok (some node)
  file : node.isDirectory = false
  accepted : options.Accepts path.name

/-- The source is a document with these bytes. -/
abbrev Opens (store : Store) (path : Path) (options : TextOptions) (bytes : List UInt8) : Prop :=
  IsDocument store path options (.file bytes)

/-- What comes of reading a source. The first five cases are told as faults of the source, and what
is wrong first is told; the last five come out as faults of something else. -/
inductive Reads (store : Store) (path : Path) (options : TextOptions) :
    Except Fault (List Nat) → Prop
  | missing (nothing : store.find? path = .ok none) :
    Reads store path options (.error (.sourceMissing path.toString))
  | notAFile {node : Node} (found : store.find? path = .ok (some node))
      (directory : node.isDirectory = true) :
    Reads store path options (.error (.sourceNotAFile path.toString))
  | notADocument {node : Node} (found : store.find? path = .ok (some node))
      (file : node.isDirectory = false) (refused : ¬options.Accepts path.name) :
    Reads store path options
      (.error (.notADocument path.name (String.intercalate ", " options.documentExtensions)))
  | unopenable (document : IsDocument store path options .locked)
      (noNul : options.encoding.contains '\x00' = false) :
    Reads store path options (.error
      (.sourceUnreadable path.toString (Fault.file .denied path.toString).message))
  | undecodable {bytes : List UInt8} {encoding : Encoding} {flaw : DecodeFault}
      (opens : Opens store path options bytes)
      (named : Encoding.ofName options.encoding = .ok encoding)
      (failed : encoding.decode bytes = .error (.decode flaw)) :
    Reads store path options (.error (.sourceUnreadable path.toString flaw.message))
  | text {bytes : List UInt8} {encoding : Encoding} {codes : List Nat}
      (opens : Opens store path options bytes)
      (named : Encoding.ofName options.encoding = .ok encoding)
      (decoded : encoding.decode bytes = .ok codes) :
    Reads store path options (.ok codes)
  | pathTooLong (failed : store.find? path = .error (.file .nameTooLong path.toString)) :
    Reads store path options (.error (.file .nameTooLong path.toString))
  | pathClosed (failed : store.find? path = .error (.file .denied path.toString)) :
    Reads store path options (.error (.file .denied path.toString))
  /-- Such a name is refused before the file is opened. -/
  | nulInName (document : IsDocument store path options .locked)
      (nul : options.encoding.contains '\x00' = true) :
    Reads store path options (.error .nulInName)
  | noEncoding {bytes : List UInt8} {fault : Fault} (opens : Opens store path options bytes)
      (failed : Encoding.ofName options.encoding = .error fault) :
    Reads store path options (.error fault)
  | noText {bytes : List UInt8} {encoding : Encoding} {fault : Fault}
      (opens : Opens store path options bytes)
      (named : Encoding.ofName options.encoding = .ok encoding)
      (failed : encoding.decode bytes = .error fault) (whole : encoding.IsWholeFault fault) :
    Reads store path options (.error fault)

/-- The faults of reading that are not told as faults of a source. -/
inductive IsUntold (path : Path) (options : TextOptions) : Fault → Prop
  | pathTooLong : IsUntold path options (.file .nameTooLong path.toString)
  /-- A directory on the way may not be passed through. -/
  | pathClosed : IsUntold path options (.file .denied path.toString)
  | noEncoding {fault : Fault} (no : Encoding.IsNoEncoding options.encoding fault) :
    IsUntold path options fault
  | noText {encoding : Encoding} {fault : Fault}
      (named : Encoding.ofName options.encoding = .ok encoding)
      (whole : encoding.IsWholeFault fault) : IsUntold path options fault

/-! ### What a reader does in each case -/

theorem listItems_texts (index : Nat) (items : List String) :
    listItems index (items.map .str) = .ok items := by
  induction items generalizing index with
  | nil => rfl
  | cons item rest ih =>
    simp only [List.map_cons, listItems, ih]
    rfl

theorem refuseName_texts (name : String) (extensions : List String) :
    refuseName name (.tuple (extensions.map .str)) =
      .error (.notADocument name (String.intercalate ", " extensions)) := by
  simp only [refuseName, Value.elements, Bind.bind, Except.bind, listItems_texts]
  rfl

section Read

variable {store : Store} {path : Path} {options : TextOptions} {node : Node} {bytes : List UInt8}
  {fault : Fault} {result : Except Fault (List Nat)}

theorem read_of_refused (found : store.find? path = .ok (some node))
    (file : node.isDirectory = false) (refused : ¬options.Accepts path.name) :
    Document.read store path options.toOptions =
      .error (.notADocument path.name (String.intercalate ", " options.documentExtensions)) := by
  obtain ⟨unforced, other⟩ := not_or.1 refused
  have tested := hasName_texts (some path.name) options.documentExtensions
  rw [Bool.eq_false_iff.2 other] at tested
  have named := refuseName_texts path.name options.documentExtensions
  simp only [Document.read, found, file, TextOptions.toOptions, Bool.eq_false_iff.2 unforced,
    tested, named, Bind.bind, Except.bind]
  rfl

theorem IsDocument.read_eq (document : IsDocument store path options node) :
    Document.read store path options.toOptions = contents store path (.str options.encoding) := by
  refine read_of_named document.found document.file (document.accepted.imp_right fun named ↦ ?_)
  have tested := hasName_texts (some path.name) options.documentExtensions
  rwa [named] at tested

/-- A name with a NUL is refused, whether the document can be opened or not. -/
theorem IsDocument.read_of_nul (document : IsDocument store path options node)
    (nul : options.encoding.contains '\x00' = true) :
    Document.read store path options.toOptions = .error .nulInName := by
  rw [document.read_eq, contents, encodingName, if_pos nul]
  rfl

theorem read_of_unopenable (document : IsDocument store path options .locked)
    (noNul : options.encoding.contains '\x00' = false) :
    Document.read store path options.toOptions =
      .error (.sourceUnreadable path.toString (Fault.file .denied path.toString).message) := by
  rw [document.read_eq, contents_of_locked (encodingName_str noNul) document.found]

/-- Of a document the bytes are decoded, if there is an encoding. -/
theorem Opens.read_eq (opens : Opens store path options bytes) :
    Document.read store path options.toOptions = Except.mapError (unreadable path)
      (Encoding.ofName options.encoding >>= fun encoding ↦ encoding.decode bytes) := by
  -- A NUL in the name is found before the file is opened, and would be found afterwards as well.
  cases nul : options.encoding.contains '\x00' with
  | true =>
    rw [opens.read_of_nul nul, Encoding.ofName, if_pos nul]
    rfl
  | false =>
    rw [IsDocument.read_eq opens, contents_of_file (encodingName_str nul) opens.found]
    rfl

theorem Opens.read_eq_of_ofName (opens : Opens store path options bytes) {encoding : Encoding}
    (named : Encoding.ofName options.encoding = .ok encoding) :
    Document.read store path options.toOptions =
      Except.mapError (unreadable path) (encoding.decode bytes) := by
  rw [opens.read_eq, named]
  rfl

/-- A text in UTF-8 is read as it is. -/
theorem Opens.read_encode {text : List Char}
    (opens : Opens store path options (Text.Utf8.encode text))
    (named : Encoding.ofName options.encoding = .ok .utf8) :
    Document.read store path options.toOptions = .ok (Text.codes text) := by
  rw [opens.read_eq_of_ofName named, Encoding.decode, Text.Utf8.decodeUtf8_encode]
  rfl

/-- If a byte order mark is looked for, it is all that can be missing. -/
theorem Opens.exists_read_encode {text : List Char}
    (opens : Opens store path options (Text.Utf8.encode text))
    (named : Encoding.ofName options.encoding = .ok .utf8Mark) :
    ∃ source, Document.read store path options.toOptions = .ok (Text.codes source) ∧
      Text.Utf8.encode source = Text.Utf8.dropMark (Text.Utf8.encode text) := by
  obtain ⟨source, decoded, kept⟩ := Text.Utf8.exists_decode_utf8Mark text
  refine ⟨source, ?_, kept⟩
  rw [opens.read_eq_of_ofName named, decoded]
  rfl

theorem unreadable_of_isNoEncoding {name : String} (no : Encoding.IsNoEncoding name fault) :
    unreadable path fault = fault := by
  cases no <;> rfl

theorem unreadable_of_isWholeFault {encoding : Encoding} (whole : encoding.IsWholeFault fault) :
    unreadable path fault = fault := by
  cases whole <;> rfl

theorem Reads.read_eq (reads : Reads store path options result) :
    Document.read store path options.toOptions = result := by
  cases reads with
  | missing nothing => rw [Document.read, nothing]; rfl
  | notAFile found directory => rw [Document.read, found]; exact if_pos directory
  | notADocument found file refused => exact read_of_refused found file refused
  | unopenable document noNul => exact read_of_unopenable document noNul
  | undecodable opens named failed => rw [opens.read_eq_of_ofName named, failed]; rfl
  | text opens named decoded => rw [opens.read_eq_of_ofName named, decoded]; rfl
  | pathTooLong failed | pathClosed failed => rw [Document.read, failed]; rfl
  | nulInName document nul => exact document.read_of_nul nul
  | noEncoding opens failed =>
    rw [opens.read_eq, failed]
    exact congrArg _ (unreadable_of_isNoEncoding (Encoding.isNoEncoding_of_ofName failed))
  | noText opens named failed whole =>
    rw [opens.read_eq_of_ofName named, failed]
    exact congrArg _ (unreadable_of_isWholeFault whole)

theorem exists_reads_of_opens (opens : Opens store path options bytes) :
    ∃ result, Reads store path options result := by
  cases named : Encoding.ofName options.encoding with
  | error fault => exact ⟨_, .noEncoding opens named⟩
  | ok encoding =>
    cases decoded : encoding.decode bytes with
    | ok codes => exact ⟨_, .text opens named decoded⟩
    | error fault =>
      rcases Encoding.failsOnBytes_decode encoding bytes fault decoded with ⟨flaw, rfl⟩ | whole
      · exact ⟨_, .undecodable opens named decoded⟩
      · exact ⟨_, .noText opens named decoded whole⟩

theorem exists_reads_of_isDocument (document : IsDocument store path options node) :
    ∃ result, Reads store path options result := by
  have file := document.file
  cases node with
  | directory | sealed => cases file
  | file bytes => exact exists_reads_of_opens document
  | locked =>
    cases nul : options.encoding.contains '\x00' with
    | true => exact ⟨_, .nulInName document nul⟩
    | false => exact ⟨_, .unopenable document nul⟩

/-- There is a case for every source. -/
theorem exists_reads (store : Store) (path : Path) (options : TextOptions) :
    ∃ result, Reads store path options result := by
  cases found : store.find? path with
  | error fault =>
    rcases Store.eq_or_eq_of_find?_error found with rfl | rfl
    · exact ⟨_, .pathTooLong found⟩
    · exact ⟨_, .pathClosed found⟩
  | ok node =>
    cases node with
    | none => exact ⟨_, .missing found⟩
    | some node =>
      cases file : node.isDirectory with
      | true => exact ⟨_, .notAFile found file⟩
      | false =>
        by_cases accepted : options.Accepts path.name
        · exact exists_reads_of_isDocument ⟨found, file, accepted⟩
        · exact ⟨_, .notADocument found file accepted⟩

/-! ### What a reader does not tell -/

theorem IsUntold.isSourceFault (untold : IsUntold path options fault) :
    isSourceFault fault = false := by
  rcases untold with - | - | ⟨⟨⟩⟩ | ⟨-, ⟨⟩⟩ <;> rfl

/-- A fault says why the source cannot be used, or it is one of those that do not. -/
theorem Reads.isUntold (reads : Reads store path options (.error fault))
    (untold : Document.isSourceFault fault = false) : IsUntold path options fault := by
  cases reads with
  | missing | notAFile | notADocument | unopenable | undecodable => cases untold
  | pathTooLong => exact .pathTooLong
  | pathClosed => exact .pathClosed
  | nulInName document nul => exact .noEncoding (.nul nul)
  | noEncoding opens failed => exact .noEncoding (Encoding.isNoEncoding_of_ofName failed)
  | noText opens named failed whole => exact .noText named whole

end Read

/-- **What comes of reading a source is what `Reads` says**, and the faults that are not told as
faults of a source are those of `IsUntold`. A text in UTF-8 is read as it is, but for a byte
order mark in front of it. A source is loaded exactly if what is read are the code points of a text,
and then it is this text. -/
theorem read_iff_reads (store : Store) (path : Path) (options : TextOptions) :
    (∀ result, Document.read store path options.toOptions = result ↔
        Reads store path options result) ∧
      (∀ fault, Document.read store path options.toOptions = .error fault →
        (isSourceFault fault = false ↔ IsUntold path options fault)) ∧
      (∀ text, Opens store path options (Text.Utf8.encode text) →
        (Encoding.ofName options.encoding = .ok .utf8 →
          Document.read store path options.toOptions = .ok (Text.codes text)) ∧
        (Encoding.ofName options.encoding = .ok .utf8Mark →
          ∃ source, Document.read store path options.toOptions = .ok (Text.codes source) ∧
            Text.Utf8.encode source = Text.Utf8.dropMark (Text.Utf8.encode text))) ∧
      ∀ text, load store path options.toOptions = .ok text ↔
        Reads store path options (.ok (Text.codes text)) := by
  have iff (result : Except Fault (List Nat)) :
      Document.read store path options.toOptions = result ↔ Reads store path options result := by
    refine ⟨?_, Reads.read_eq⟩
    rintro rfl
    obtain ⟨result, reads⟩ := exists_reads store path options
    rwa [reads.read_eq]
  refine ⟨iff, fun fault failed ↦ ?_, fun text opens ↦ ?_, fun text ↦ ?_⟩
  · exact ⟨((iff _).1 failed).isUntold, IsUntold.isSourceFault⟩
  · exact ⟨opens.read_encode, opens.exists_read_encode⟩
  · exact load_eq_ok_iff.trans (iff _)

/-! ### Two files -/

/-- A file system with one file. -/
def fileStore (bytes : List UInt8) : Store :=
  { nodes := [(["a.tab"], .file bytes)], working := [] }

theorem opens_fileStore {options : TextOptions} (accepted : options.Accepts "a.tab")
    (bytes : List UInt8) :
    Opens (fileStore bytes) (Path.ofString "a.tab") options bytes where
  found := Store.find?_of_resolve (Store.hasNul_eq_false (by decide +kernel)) rfl
  file := rfl
  accepted := accepted

theorem ofName_escaped : Encoding.ofName "unicode_escape" = .ok .escaped := by
  have noNul : String.contains "unicode_escape" '\x00' = false :=
    Store.contains_eq_false (by decide)
  rw [Encoding.ofName, noNul, if_neg Bool.false_ne_true]
  rfl

/-- Options for a document whose characters are escaped. -/
def escapedOptions : TextOptions :=
  { encoding := "unicode_escape" }

/-- An escape for half a surrogate pair. -/
def escapedHalf : List UInt8 :=
  [0x5c, 0x75, 0x64, 0x38, 0x30, 0x30]

theorem decode_escapedHalf : Encoding.escaped.decode escapedHalf = .ok [0xd800] := by
  have half : Text.Escaped.readFull [0x75, 0x64, 0x38, 0x30, 0x30] = .read 6 [0xd800] := rfl
  have decoded : Text.Escaped.decode escapedHalf = .ok [0xd800] := by
    rw [Text.Escaped.decode, escapedHalf, Text.Escaped.decodeFrom, if_pos rfl, half]
    simp only [List.drop, Text.Escaped.decodeFrom]
    rfl
  rw [Encoding.decode, decoded]
  rfl

/-- Half a surrogate pair is read from its escape, but is not loaded, since it is no text. -/
theorem read_escapedHalf :
    Document.read (fileStore escapedHalf) (Path.ofString "a.tab") escapedOptions.toOptions =
      .ok [0xd800] ∧
    ∀ text, load (fileStore escapedHalf) (Path.ofString "a.tab") escapedOptions.toOptions ≠
      .ok text := by
  have accepted : escapedOptions.Accepts "a.tab" := .inr (by decide +kernel)
  obtain ⟨reads, -, -, loads⟩ :=
    read_iff_reads (fileStore escapedHalf) (Path.ofString "a.tab") escapedOptions
  have read := (reads (.ok [0xd800])).2 (.text (opens_fileStore accepted _) ofName_escaped
    decode_escapedHalf)
  refine ⟨read, fun text loaded ↦ ?_⟩
  -- What is loaded would be a text with this one code point.
  have again := (reads _).2 ((loads text).1 loaded)
  rw [read, Except.ok.injEq, ← Encoding.textOf_eq_ok_iff] at again
  cases again

theorem ofName_unknown : Encoding.ofName "latin-99" = .error (.unknownEncoding "latin-99") := by
  have noNul : String.contains "latin-99" '\x00' = false := Store.contains_eq_false (by decide)
  rw [Encoding.ofName, noNul, if_neg Bool.false_ne_true]
  rfl

/-- That the name of an encoding is unknown is not told as a fault of the document. -/
theorem read_unknownEncoding :
    Document.read (fileStore [0x61, 0x3d, 0x31]) (Path.ofString "a.tab")
        (TextOptions.toOptions { encoding := "latin-99" }) =
      .error (.unknownEncoding "latin-99") ∧
    isSourceFault (.unknownEncoding "latin-99") = false := by
  have accepted : TextOptions.Accepts { encoding := "latin-99" } "a.tab" :=
    .inr (by decide +kernel)
  exact ⟨(Reads.noEncoding (opens_fileStore accepted _) ofName_unknown).read_eq, rfl⟩

end Tabstave.Document
