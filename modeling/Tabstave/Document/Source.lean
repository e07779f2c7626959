import Tabstave.Document.Outcome
import Tabstave.Files.Store
import Tabstave.Text.Encoding.Basic

/-!
# Reading documents

A source is read only if it is a file with the name of a document, unless short form is forced, and
if its bytes can be decoded. `read` looks for the first thing that is wrong, in this order: nothing
is there, it is no file, its name is no document's, its contents cannot be had. The line breaks of
the source are kept as they are.

What is read are code points. `load` goes on only if they are a text: what else is done here with a
source is done with sequences of characters.

A position in a source is a cursor already, or the caret of an editor. An editor counts lines from
zero and columns from the start of the line, indentation included. A cursor counts lines from one
and columns from the first character after the indentation; a caret within the indentation counts as
being at its end.
-/

namespace Tabstave

/-! ### Positions -/

/-- The cursor at an editor's caret, given the text of its line. -/
def Cursor.ofEditor (lineText : Line) (lineIndex character : Int) : Cursor :=
  ⟨lineIndex + 1, max 0 (character - (Text.indentation lineText).length)⟩

/-- The line at an index counted from zero; there is nothing on lines outside the source. -/
def lineAt (source : List Char) (index : Int) : Line :=
  if index < 0 then [] else ((Text.splitLines source)[index.toNat]?).getD []

/-- The cursor at a position: a cursor already, or the caret of an editor. -/
def Cursor.ofPosition (source : List Char) (line column : Int) (editor : Bool) : Cursor :=
  if editor then Cursor.ofEditor (lineAt source line) line column else ⟨line, column⟩

namespace Document

/-! ### Sources -/

/-- The extensions as a message lists them. -/
def listItems (index : Nat) : List Value → Except Fault (List String)
  | [] => .ok []
  | .str item :: rest => do return item :: (← listItems (index + 1) rest)
  | .halves codes :: rest => do
    return String.ofList (Text.escapeHalves codes) :: (← listItems (index + 1) rest)
  | item :: _ => .error (.listedItem index item.typeName)

/-- The fault of a name that is no document's. -/
def refuseName (name : String) (extensions : Value) : Except Fault Unit := do
  let items ← listItems 0 (← extensions.elements)
  throw (.notADocument name (String.intercalate ", " items))

/-- The name of an encoding that a setting gives, if it gives one. -/
def encodingName : Value → Except Fault (Option String)
  | .null => .ok none
  | .str name => if name.contains '\x00' then .error .nulInName else .ok (some name)
  | .halves codes => .error (.halves codes)
  | v => .error (.encodingType v.typeName)

/-- The encoding of a name; without a name it is the usual one. -/
def encodingOf : Option String → Except Fault Text.Encoding
  | none => .ok .utf8
  | some name => Text.Encoding.ofName name

/-- What cannot be had of a source: the reason is told together with its path. Other faults are as
they are. -/
def unreadable (path : Path) : Fault → Fault
  | .decode fault => .sourceUnreadable path.toString fault.message
  | .file fault at_ => .sourceUnreadable path.toString (Fault.file fault at_).message
  | fault => fault

/-- The contents of a source. The encoding is looked up only when the file is open. -/
def contents (store : Store) (path : Path) (encoding : Value) : Except Fault (List Nat) :=
  Except.mapError (unreadable path) do
    let name ← encodingName encoding
    let bytes ← store.read path
    (← encodingOf name).decode bytes

/-- Read a source. -/
def read (store : Store) (path : Path) (options : Options) : Except Fault (List Nat) := do
  match ← store.find? path with
  | none => throw (.sourceMissing path.toString)
  | some node =>
    if node.isDirectory then throw (.sourceNotAFile path.toString)
    if !options.forceShortForm then
      if !(← hasName (some path.name) options.documentExtensions) then
        refuseName path.name options.documentExtensions
    contents store path options.encoding

/-- Read the text of a source. -/
def load (store : Store) (path : Path) (options : Options) : Except Fault (List Char) := do
  Text.Encoding.textOf (← read store path options)

/-- Read a source and preprocess it. -/
def Outcome.ofFile (store : Store) (path : Path) (options : Options) (clock : Clock) :
    Except Fault Outcome := do
  let source ← load store path options
  Outcome.ofBuffer source (some path.name) options clock

/-- Carry a position in a file over to its expanded text. -/
def locateInFile (store : Store) (path : Path) (line column : Int) (options : Options)
    (editor : Bool) : Except Fault Cursor := do
  let source ← load store path options
  let outcome ← Outcome.ofBuffer source (some path.name) options []
  return outcome.locate (Cursor.ofPosition source line column editor)

/-- Whether a fault says why a source cannot be used. -/
def isSourceFault : Fault → Bool
  | .sourceMissing _ => true
  | .sourceNotAFile _ => true
  | .notADocument _ _ => true
  | .sourceUnreadable _ _ => true
  | _ => false

end Document

end Tabstave
