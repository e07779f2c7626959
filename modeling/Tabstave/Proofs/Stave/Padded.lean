import Tabstave.Proofs.Line.Padding
import Tabstave.Proofs.Stave.Locality

/-!
# Blank characters around lines

Indentation, a byte order mark and a carriage return that was left at the end of a line do no harm:
a `Padding` is any such characters in front of a line and behind it, and a line has the same kind
with them (`kind_around`). So a padded source is laid out like the source itself, and the padding of
a line is found again around the expanded line that carries it (`layoutLine_around`), outside of the
directive that it may have got. Blank lines are the exception, since nothing of them is kept.

`expand_padded` compares the two expansions line by line.
-/

namespace Tabstave

/-- Blank characters to put in front of a line and behind it. -/
structure Padding where
  before : Line
  behind : Line
  blank_before : ∀ c ∈ before, Text.isBlank c = true
  blank_behind : ∀ c ∈ behind, Text.isBlank c = true

namespace Padding

variable (pad : Padding) {line : Line}

/-- A line with blank characters around it. -/
def around (line : Line) : Line :=
  pad.before ++ line ++ pad.behind

theorem kind_around (line : Line) : (pad.around line).kind = line.kind := by
  rw [around, Line.kind_append_blank pad.blank_behind]
  exact Line.kind_congr (Text.content_pad pad.blank_before line)

theorem content_around (solid : Text.content line ≠ []) :
    Text.content (pad.around line) = Text.content line ++ pad.behind := by
  rw [around, List.append_assoc, Text.content_pad pad.blank_before, Text.content_append solid]

theorem indentation_around (solid : Text.content line ≠ []) :
    Text.indentation (pad.around line) = pad.before ++ Text.indentation line := by
  rw [around, List.append_assoc, Text.indentation_pad pad.blank_before,
    Text.indentation_append solid]

end Padding

namespace Stave

/-! ### Padded lines -/

/-- The lines of a source, each with its padding. -/
def padLines (pads : Nat → Padding) (lines : List Line) : List Line :=
  lines.mapIdx fun index ↦ (pads index).around

theorem sameKinds_padLines (pads : Nat → Padding) (lines : List Line) :
    SameKinds lines (padLines pads lines) := by
  refine List.forall₂_iff_get.2 ⟨List.length_mapIdx.symm, fun index _ _ ↦ ?_⟩
  simp only [padLines, List.get_eq_getElem, List.getElem_mapIdx, Padding.kind_around]

theorem headLine_around (pad : Padding) {line : Line} (some_line : line.kind ≠ .blank) :
    headLine (pad.around line) = pad.around (headLine line) := by
  rw [headLine, headLine, pad.kind_around, if_neg some_line, if_neg some_line]

/-- The directive that a line gets is put inside of its padding. -/
theorem bodyLine_around (pad : Padding) {line : Line} (some_line : line.kind ≠ .blank) :
    bodyLine (pad.around line) = pad.around (bodyLine line) := by
  have solid : Text.content line ≠ [] := by
    rwa [Ne, ← Line.isBlankLine_iff, ← Line.kind_eq_blank_iff]
  rw [bodyLine, bodyLine, pad.kind_around]
  split
  · contradiction
  · rw [pad.indentation_around solid, pad.content_around solid]
    simp only [Padding.around, List.append_assoc]
  · rfl

theorem layoutLine_around (lines : List Line) (index : Nat) (pad : Padding) {line : Line}
    (some_line : line.kind ≠ .blank) :
    layoutLine lines index (pad.around line) = pad.around (layoutLine lines index line) := by
  rw [layoutLine, layoutLine, headLine_around pad some_line, bodyLine_around pad some_line]
  exact (apply_ite pad.around _ _ _).symm

/-- The line of the layout that carries a line with its padding. -/
theorem layoutLine_padLines (pads : Nat → Padding) (lines : List Line) (index : Nat) {line : Line}
    (some_line : line.kind ≠ .blank) :
    layoutLine (padLines pads lines) index ((pads index).around line) =
      (pads index).around (layoutLine lines index line) := by
  rw [← layoutLine_around lines index (pads index) some_line, layoutLine, layoutLine,
    (sameKinds_padLines pads lines).preambleEnd_eq]

/-! ### Padded sources -/

/-- **Blank characters around a line never change its kind, and around the lines of a source they
only come out again around the lines that carry them.** The line map and the number of lines stay as
they are, and so do the lines that carry a blank line or none. -/
theorem expand_padded :
    (∀ (pad : Padding) (line : Line), (pad.around line).kind = line.kind ∧
      Text.indentation (pad.before ++ line) = pad.before ++ Text.indentation line) ∧
    ∀ (source padded : List Char) (pads : Nat → Padding),
      Text.splitLines padded = padLines pads (Text.splitLines source) →
      (expand padded).lineMap = (expand source).lineMap ∧
      (expand padded).lineCount = (expand source).lineCount ∧
      (∀ (index : Nat) (entry : LineMap.Entry), (expand source).lineMap[index]? = some entry →
        entry.kind ≠ .blank →
        ∃ out, Text.numberedLine? (expand source).text entry.expandedLine = some out ∧
          Text.numberedLine? (expand padded).text entry.expandedLine =
            some ((pads index).around out)) ∧
      ∀ number, (∀ entry ∈ (expand source).lineMap, entry.expandedLine = number →
          entry.kind = .blank) →
        Text.numberedLine? (expand padded).text number =
          Text.numberedLine? (expand source).text number := by
  refine ⟨fun pad line ↦ ⟨pad.kind_around line, Text.indentation_pad pad.blank_before line⟩, ?_⟩
  intro source padded pads split
  have same := sameKinds_padLines pads (Text.splitLines source)
  rw [← split] at same
  refine ⟨(lineMap_expand_of_sameKinds same).symm, ?_, ?_, ?_⟩
  · rw [Expansion.lineCount, Expansion.lineCount, splitFeeds_expand, splitFeeds_expand,
      same.length_layout_eq]
  · intro index entry found some_line
    obtain ⟨line, hline, rfl⟩ := exists_eq_layoutEntry found
    have out := numberedLine?_expand source index
    have out' := numberedLine?_expand padded index
    rw [hline, Option.map_some] at out
    rw [split, padLines, List.getElem?_mapIdx, hline, Option.map_some, Option.map_some, ← padLines,
      layoutLine_padLines pads _ index some_line, ← split, ← same.shift_eq] at out'
    exact ⟨_, out, out'⟩
  · intro number carried
    cases number with
    | zero => rfl
    | succ position =>
      by_contra differ
      rw [Text.numberedLine?, Text.numberedLine?, splitFeeds_expand, splitFeeds_expand] at differ
      obtain ⟨index, line, other, rfl, hline, -, -, some_line⟩ :=
        exists_ne_of_getElem?_layout_ne same (Ne.symm differ)
      have entry := getElem?_lineMap_expand source index
      rw [hline, Option.map_some] at entry
      exact some_line (carried _ (List.mem_of_getElem? entry) rfl)

/-- A tab in front of a line, and a carriage return and a wide space behind it. -/
def tabbed : Padding where
  before := ['\t']
  behind := ['\r', '\u3000']
  blank_before := List.all_eq_true.1 (by decide)
  blank_behind := List.all_eq_true.1 (by decide)

/-- The directive of a padded line stands inside of its padding. -/
theorem expand_padded_tabs :
    Text.splitLines "\ta=1\r\u3000\n\tnotes\r\u3000".toList =
        padLines (fun _ ↦ tabbed) (Text.splitLines "a=1\nnotes".toList) ∧
      Text.numberedLine? (expand "\ta=1\r\u3000\n\tnotes\r\u3000".toList).text 1 =
        some "\ttabstave a=1\r\u3000".toList := by
  have split : Text.splitLines "\ta=1\r\u3000\n\tnotes\r\u3000".toList =
      padLines (fun _ ↦ tabbed) (Text.splitLines "a=1\nnotes".toList) := by
    decide
  obtain ⟨-, -, carried, -⟩ := expand_padded.2 _ _ _ split
  obtain ⟨out, plain, padded⟩ := carried 0 ⟨1, 1, 9, .staveOptions⟩ (by decide) (by decide)
  have line : Text.numberedLine? (expand "a=1\nnotes".toList).text 1 =
      some "tabstave a=1".toList := by
    decide
  obtain rfl := Option.some.inj (line.symm.trans plain)
  exact ⟨split, padded⟩

end Stave

end Tabstave
