import Tabstave.Line.Kind
import Tabstave.Stave.LineMap

/-!
# Expanding a short-form source

Every source line becomes one line of the expanded text, or two: a line of stave options gets the
directive that it lacks, a blank line becomes a stave opener wherever a stave may stand, and the
first content of a source that has opened no stave yet gets an opener on a line of its own in front.
The content of a source line always stands on the last of its lines.

Before the first stave, a blank line opens one unless preamble is still to come. What comes is the
first line further down that is neither blank nor a comment; at the end of the source there is none,
and then a stave is opened (`opensBefore`).

`placements` walks over the lines and carries along whether a stave has been opened. `expand` lays
the placements out as a text and as the map from source lines to lines of that text.
-/

namespace Tabstave.Stave

/-! ### Looking ahead from a blank line -/

/-- Whether a blank line with these lines below it opens a stave. -/
def opensBefore : List Line → Bool
  | [] => true
  | line :: rest =>
    if line.isBlankLine || Line.isComment (Text.content line) then opensBefore rest
    else !Line.isPreamble (Text.content line)

/-- The lines from a position on, which counts from the end when it is negative. -/
def linesFrom (lines : List Line) (position : Int) : List Line :=
  if position < 0 then lines.drop (position + lines.length).toNat else lines.drop position.toNat

/-- Whether a blank line at this index opens a stave. -/
def opensAt (lines : List Line) (index : Int) : Bool :=
  opensBefore (linesFrom lines (index + 1))

/-- A line that is passed over does not change the answer. -/
theorem opensBefore_cons_of_skipped {line : Line} (rest : List Line)
    (h : line.isBlankLine = true ∨ Line.isComment (Text.content line) = true) :
    opensBefore (line :: rest) = opensBefore rest := by
  simp [opensBefore, h]

/-! ### Placing the lines -/

/-- What the directive and the space after it take up. -/
def staveLead : Line :=
  staveKeyword ++ [' ']

/-- The lines that one source line becomes, and how far its content moves to the right. -/
structure Placement where
  emitted : List Line
  offset : Nat
  kind : LineKind
  deriving DecidableEq, Repr

/-- Place one line, given whether a stave is open and which lines follow; the second part says
whether a stave is open afterwards. -/
def place (staveOpen : Bool) (line : Line) (rest : List Line) : Placement × Bool :=
  match line.kind with
  | .blank =>
    if staveOpen || opensBefore rest then (⟨[staveKeyword], 0, .blank⟩, true)
    else (⟨[[]], 0, .blank⟩, false)
  | .staveOpen => (⟨[line], 0, .staveOpen⟩, true)
  | .staveOptions =>
    (⟨[Text.indentation line ++ staveLead ++ Text.content line], staveLead.length, .staveOptions⟩, true)
  | .content =>
    (⟨if staveOpen then [line] else [staveKeyword, line], 0, .content⟩, true)
  | kind => (⟨[line], 0, kind⟩, staveOpen)

/-- Place all lines. -/
def placements (staveOpen : Bool) : List Line → List Placement
  | [] => []
  | line :: rest =>
    let (placement, staveOpen) := place staveOpen line rest
    placement :: placements staveOpen rest

/-- The lines of the expanded text. -/
def emittedLines (placed : List Placement) : List Line :=
  placed.flatMap Placement.emitted

/-- The map of placed lines, given how many source lines and how many expanded lines came before. -/
def lineMapFrom (source expanded : Nat) : List Placement → LineMap
  | [] => []
  | placement :: rest =>
    let expanded := expanded + placement.emitted.length
    ⟨source + 1, expanded, placement.offset, placement.kind⟩ ::
      lineMapFrom (source + 1) expanded rest

/-! ### Expanding a source -/

/-- A text together with where the lines of its source went. -/
structure Expansion where
  text : List Char
  lineMap : LineMap
  /-- Whether the source was taken as short form. -/
  shortForm : Bool
  deriving DecidableEq, Repr

/-- Carry a cursor of the source over to the text. A source that passed through keeps its cursors.
-/
def Expansion.locate (expansion : Expansion) (cursor : Cursor) : Cursor :=
  if expansion.shortForm then expansion.lineMap.locate cursor else cursor

/-- The number of lines of the text. -/
def Expansion.lineCount (expansion : Expansion) : Nat :=
  (Text.splitFeeds expansion.text).length

/-- Expand a short-form source. -/
def expand (source : List Char) : Expansion :=
  let placed := placements false (Text.splitLines source)
  ⟨Text.joinLines (emittedLines placed), lineMapFrom 0 0 placed, true⟩

/-- Let a source through as it is. -/
def passThrough (source : List Char) : Expansion :=
  ⟨source, LineMap.identityFrom 1 (Text.splitLines source), false⟩

/-- Expand a source or let it through. -/
def expandIf (shortForm : Bool) (source : List Char) : Expansion :=
  if shortForm then expand source else passThrough source

@[simp] theorem length_placements (staveOpen : Bool) (lines : List Line) :
    (placements staveOpen lines).length = lines.length := by
  induction lines generalizing staveOpen with
  | nil => rfl
  | cons line rest ih => simp [placements, ih]

@[simp] theorem length_lineMapFrom (source expanded : Nat) (placed : List Placement) :
    (lineMapFrom source expanded placed).length = placed.length := by
  induction placed generalizing source expanded with
  | nil => rfl
  | cons placement rest ih => simp [lineMapFrom, ih]

/-- Every source line has an entry. -/
theorem length_lineMap_expandIf (shortForm : Bool) (source : List Char) :
    (expandIf shortForm source).lineMap.length = (Text.splitLines source).length := by
  cases shortForm <;> simp [expandIf, expand, passThrough]

end Tabstave.Stave
