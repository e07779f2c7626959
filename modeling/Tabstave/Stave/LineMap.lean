import Tabstave.Line.Kind

/-!
# Cursors and the line map

A cursor counts lines from one and columns from zero, the columns from the first character after the
indentation. A line map says for every source line on which line of the expanded text its content
stands and by how many columns it moved; `LineMap.locate` carries a cursor over. Cursors on lines
outside the source stay where they are.
-/

namespace Tabstave

/-- A caret: the line counted from one, the column from zero. -/
structure Cursor where
  line : Int
  column : Int
  deriving DecidableEq, Repr

/-- Where one source line went. -/
structure LineMap.Entry where
  sourceLine : Nat
  expandedLine : Nat
  columnOffset : Nat
  kind : LineKind
  deriving DecidableEq, Repr

/-- Whether the content of the line stands on another line or in another column than before. -/
def LineMap.Entry.isShifted (entry : LineMap.Entry) : Bool :=
  entry.sourceLine != entry.expandedLine || entry.columnOffset != 0

/-- One entry for each source line, in their order. -/
abbrev LineMap := List LineMap.Entry

namespace LineMap

/-- The entry of the line with this number, counted from one. -/
def entry? (map : LineMap) (line : Int) : Option Entry :=
  if line < 1 then none else map[(line - 1).toNat]?

/-- Carry a cursor over to the line and column where its content went. -/
def locate (map : LineMap) (cursor : Cursor) : Cursor :=
  match map.entry? cursor.line with
  | some entry => ⟨entry.expandedLine, cursor.column + entry.columnOffset⟩
  | none => cursor

/-- The map of lines that all stay in place, numbered from `first`. -/
def identityFrom (first : Nat) : List Line → LineMap
  | [] => []
  | line :: rest => ⟨first, first, 0, line.kind⟩ :: identityFrom (first + 1) rest

@[simp] theorem length_identityFrom (first : Nat) (lines : List Line) :
    (identityFrom first lines).length = lines.length := by
  induction lines generalizing first with
  | nil => rfl
  | cons line rest ih => simp [identityFrom, ih]

end LineMap

end Tabstave
