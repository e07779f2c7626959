import Tabstave.Text.Blank
import Tabstave.Text.Lines

/-!
# Kinds of lines

A short-form source leaves out most `tabstave` directives, so what a line means has to be read off
the line itself. `Line.kind` sorts a line into one of seven kinds. It looks at the line without its
indentation, and the first kind that fits wins, in the order in which `LineKind` lists them.
-/

namespace Tabstave

/-- What a source line is, the earlier kind winning where two fit. -/
inductive LineKind
  | blank
  | comment
  | documentHeader
  | globalOptions
  | staveOpen
  | staveOptions
  | content
  deriving DecidableEq, Repr

/-- The name under which a kind is reported. -/
def LineKind.name : LineKind → String
  | .blank => "blank"
  | .comment => "comment"
  | .documentHeader => "document_header"
  | .globalOptions => "global_options"
  | .staveOpen => "stave_open"
  | .staveOptions => "stave_options"
  | .content => "content"

/-- The name under which a kind is declared. -/
def LineKind.label : LineKind → String
  | .blank => "BLANK"
  | .comment => "COMMENT"
  | .documentHeader => "DOCUMENT_HEADER"
  | .globalOptions => "GLOBAL_OPTIONS"
  | .staveOpen => "STAVE_OPEN"
  | .staveOptions => "STAVE_OPTIONS"
  | .content => "CONTENT"

/-- The directive that opens a stave. -/
def staveKeyword : Line :=
  ['t', 'a', 'b', 's', 't', 'a', 'v', 'e']

namespace Line

/-- An ASCII letter. -/
def isLetter (c : Char) : Bool :=
  ('a' ≤ c && c ≤ 'z') || ('A' ≤ c && c ≤ 'Z')

/-- A character of a keyword: an ASCII letter or digit, or an underscore. -/
def isWordChar (c : Char) : Bool :=
  isLetter c || ('0' ≤ c && c ≤ '9') || c == '_'

/-- A character of a key after its first: one of a keyword, or a hyphen. -/
def isKeyChar (c : Char) : Bool :=
  isWordChar c || c == '-'

/-- Whether the text starts with the word, not followed by a further character of a word. -/
def startsWithWord (word : List Char) (text : Line) : Bool :=
  word.isPrefixOf text && !((text.drop word.length).head?.any isWordChar)

/-- A line without anything but blank characters. -/
def isBlankLine (line : Line) : Bool :=
  Text.indentation line == line

/-- A comment starts with two slashes or with a hash sign. -/
def isComment (text : Line) : Bool :=
  ['/', '/'].isPrefixOf text || ['#'].isPrefixOf text

/-- The directives that describe the document. -/
def headerWords : List (List Char) :=
  ["title".toList, "subtitle".toList, "sidenote".toList]

/-- A directive that describes the document. -/
def isDocumentHeader (text : Line) : Bool :=
  headerWords.any (startsWithWord · text)

/-- The directive that sets options for the whole document. -/
def isGlobalOptions (text : Line) : Bool :=
  startsWithWord "options".toList text

/-- Preamble stays outside of, and before, every stave. -/
def isPreamble (text : Line) : Bool :=
  isDocumentHeader text || isGlobalOptions text

/-- The directive that opens a stave. -/
def isStaveOpen (text : Line) : Bool :=
  startsWithWord staveKeyword text

/-- A key, white space or none, and an equals sign. -/
def startsWithAssignment : Line → Bool
  | [] => false
  | c :: rest => isLetter c && ((rest.dropWhile isKeyChar).dropWhile Text.isSpace).head? == some '='

/-- The assignments that are directives of their own. -/
def reservedAssignments : List (List Char) :=
  ["tuning=".toList]

/-- A sequence of stave options without its directive: it starts with an assignment, but not with a
reserved one. -/
def isStaveOptions (text : Line) : Bool :=
  startsWithAssignment text && !reservedAssignments.any (·.isPrefixOf text)

/-- The kind of a line. -/
def kind (line : Line) : LineKind :=
  let text := Text.content line
  if isBlankLine line then .blank
  else if isComment text then .comment
  else if isDocumentHeader text then .documentHeader
  else if isGlobalOptions text then .globalOptions
  else if isStaveOpen text then .staveOpen
  else if isStaveOptions text then .staveOptions
  else .content

/-- A line is blank exactly when it has no content. -/
theorem isBlankLine_iff (line : Line) : isBlankLine line = true ↔ Text.content line = [] := by
  have parts := Text.indentation_append_content line
  constructor
  · intro h
    have same : Text.indentation line = line := by simpa [isBlankLine] using h
    rw [same] at parts
    simpa using parts
  · intro h
    rw [h, List.append_nil] at parts
    simp [isBlankLine, parts]

end Line

end Tabstave
