import Tabstave.Proofs.Document.Caret
import Tabstave.Proofs.Lists

/-!
# Getting a source back

Expanding loses nothing but line endings and the white space of blank lines. `recover` reads the
source off an expanded text and its line map: for each entry it looks up the line that carries the
content, and takes the directive out again where one was put in.

`recoverLine_layoutLine` says so for one line, and rests on the fact that what is put in stands
right behind the indentation, and is as long as the column offset says.
-/

namespace Tabstave

/-- The line of a text with this number, counted from one. -/
def Text.numberedLine? (text : List Char) : Nat → Option Line
  | 0 => none
  | index + 1 => (splitFeeds text)[index]?

namespace Stave

/-- The source line that an entry of a line map stands for, given the line that carries it; of a
blank line there is nothing left. -/
def recoverLine (entry : LineMap.Entry) (out : Line) : Line :=
  match entry.kind with
  | .blank => []
  | .staveOptions => Text.indentation out ++ (Text.content out).drop entry.columnOffset
  | _ => out

/-- The lines that the entries of a line map stand for, if the text has all the lines that it names.
-/
def recoverLines (text : List Char) (map : LineMap) : Option (List Line) :=
  map.mapM fun entry ↦ (Text.numberedLine? text entry.expandedLine).map (recoverLine entry)

/-- The source of an expanded text, its lines separated by single line feeds. -/
def recover (text : List Char) (map : LineMap) : Option (List Char) :=
  (recoverLines text map).map Text.joinLines

/-! ### One line -/

/-- Taking as many characters as the line moved to the right out from behind the indentation gives
the line back. -/
theorem indentation_append_drop_layoutLine {lines : List Line} {index : Nat} {line : Line}
    (hline : lines[index]? = some line) (h : line.kind ≠ .blank) :
    Text.indentation (layoutLine lines index line) ++
      (Text.content (layoutLine lines index line)).drop (columnOffset line.kind) = line := by
  have content : Text.content (layoutLine lines index line) =
      lead line.kind ++ Text.content line := by
    have parts := Text.indentation_append_content (layoutLine lines index line)
    rw [indentation_layoutLine hline h] at parts
    exact List.append_cancel_left (parts.trans (layoutLine_of_ne_blank hline h))
  rw [indentation_layoutLine hline h, content, ← length_lead, List.drop_left,
    Text.indentation_append_content]

theorem recoverLine_layoutLine {lines : List Line} {index : Nat} {line : Line}
    (hline : lines[index]? = some line) :
    recoverLine (layoutEntry lines index line) (layoutLine lines index line) = headLine line := by
  by_cases blank : line.kind = .blank
  · simp [recoverLine, layoutEntry, headLine, blank]
  · have taken := indentation_append_drop_layoutLine hline blank
    rw [headLine, if_neg blank]
    cases kind : line.kind <;> rw [kind] at taken blank <;>
      simp only [recoverLine, layoutEntry, kind]
    case blank => exact absurd rfl blank
    case staveOptions => exact taken
    -- Nothing was put into any other line, so there is nothing to take out.
    all_goals exact (Text.indentation_append_content _).symm.trans taken

/-! ### All lines -/

theorem numberedLine?_expand (source : List Char) (index : Nat) :
    Text.numberedLine? (expand source).text (index + shift (Text.splitLines source) index + 1) =
      (Text.splitLines source)[index]?.map (layoutLine (Text.splitLines source) index) := by
  rw [Text.numberedLine?, splitFeeds_expand, getElem?_layout]

theorem recoverLines_expand (source : List Char) :
    recoverLines (expand source).text (expand source).lineMap =
      some ((Text.splitLines source).map headLine) := by
  refine List.mapM_eq_pure_of_forall₂ ?_
  rw [lineMap_expand, List.forall₂_iff_get]
  refine ⟨by rw [List.length_mapIdx, List.length_map], fun index first second ↦ ?_⟩
  rw [List.length_map] at second
  have hline := List.getElem?_eq_getElem second
  simp only [List.get_eq_getElem, List.getElem_mapIdx, List.getElem_map]
  rw [layoutEntry, numberedLine?_expand, hline, Option.map_some, Option.map_some]
  exact congrArg some (recoverLine_layoutLine hline)

/-- **Expanding can be undone**: text and line map give back the lines of the source, those that are
blank as empty lines. So sources that expand alike differ only in their line endings and in what
blank lines hold. -/
theorem recover_expand (source : List Char) :
    recover (expand source).text (expand source).lineMap =
        some (Text.joinLines ((Text.splitLines source).map headLine)) ∧
      ∀ other : List Char, (expand other).text = (expand source).text →
        (expand other).lineMap = (expand source).lineMap →
        (Text.splitLines other).map headLine = (Text.splitLines source).map headLine := by
  refine ⟨by rw [recover, recoverLines_expand, Option.map_some], fun other text map ↦ ?_⟩
  have lines := recoverLines_expand other
  rw [text, map, recoverLines_expand] at lines
  exact (Option.some.inj lines).symm

end Stave

end Tabstave
