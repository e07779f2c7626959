import Tabstave.Document.Source
import Tabstave.Proofs.Stave.LineMap

/-!
# Carets stay at their character

An editor counts columns from the start of a line, a cursor from the end of its indentation, and a
directive that is put in stands right there. `caret_expand` says that the three agree: from the
editor to the expanded text a caret stays in front of the same rest of the same content, whether its
line was kept, got its directive, or moved down.

A line that is not blank goes over as its indentation, what is put in (`lead`), and its content
(`layoutLine_of_ne_blank`); what is put in is as long as the column offset and not blank, so the
indentation stays what it is.
-/

namespace Tabstave.Stave

/-- What is put in between the indentation of a line and its content. -/
def lead : LineKind → Line
  | .staveOptions => staveLead
  | _ => []

theorem length_lead (kind : LineKind) : (lead kind).length = columnOffset kind := by
  cases kind <;> rfl

theorem indentation_lead_append (kind : LineKind) (line : Line) :
    Text.indentation (lead kind ++ Text.content line) = [] := by
  cases kind
  case staveOptions => exact Text.indentation_cons_of_not_blank (by decide) _
  all_goals exact Text.indentation_content line

/-- A line that is not blank goes over with its indentation and its content. -/
theorem layoutLine_of_ne_blank {lines : List Line} {index : Nat} {line : Line}
    (hline : lines[index]? = some line) (h : line.kind ≠ .blank) :
    layoutLine lines index line =
      Text.indentation line ++ (lead line.kind ++ Text.content line) := by
  have parts := Text.indentation_append_content line
  by_cases before : index < preambleEnd lines
  · have stave := isStave_of_lt_preambleEnd hline before
    rw [layoutLine_of_lt before, headLine, if_neg h]
    cases kind : line.kind <;> simp_all [lead, LineKind.isStave]
  · rw [layoutLine_of_le (Nat.le_of_not_lt before)]
    cases kind : line.kind <;> simp_all [lead, bodyLine]

theorem indentation_layoutLine {lines : List Line} {index : Nat} {line : Line}
    (hline : lines[index]? = some line) (h : line.kind ≠ .blank) :
    Text.indentation (layoutLine lines index line) = Text.indentation line := by
  rw [layoutLine_of_ne_blank hline h,
    Text.indentation_pad fun _ ↦ Text.isBlank_of_mem_indentation, indentation_lead_append,
    List.append_nil]

/-- Behind the indentation and what is put in, the rest of the content is the same. -/
theorem drop_layoutLine {lines : List Line} {index : Nat} {line : Line}
    (hline : lines[index]? = some line) (h : line.kind ≠ .blank) (column : Nat) :
    (layoutLine lines index line).drop
        ((Text.indentation line).length + (column + columnOffset line.kind)) =
      line.drop ((Text.indentation line).length + column) := by
  calc (layoutLine lines index line).drop
        ((Text.indentation line).length + (column + columnOffset line.kind))
      = (lead line.kind ++ Text.content line).drop (column + columnOffset line.kind) := by
        rw [layoutLine_of_ne_blank hline h, List.drop_length_add_append]
    _ = (Text.content line).drop column := by
        rw [Nat.add_comm column, ← length_lead, List.drop_length_add_append]
    _ = (Text.indentation line ++ Text.content line).drop
        ((Text.indentation line).length + column) := (List.drop_length_add_append column).symm
    _ = line.drop ((Text.indentation line).length + column) := by
        rw [Text.indentation_append_content]

/-- A blank line becomes empty or an opener. -/
theorem layoutLine_of_blank (lines : List Line) (index : Nat) {line : Line}
    (h : line.kind = .blank) :
    layoutLine lines index line = staveKeyword ∨ layoutLine lines index line = [] := by
  by_cases before : index < preambleEnd lines
  · rw [layoutLine_of_lt before, headLine, if_pos h]
    exact Or.inr rfl
  · rw [layoutLine_of_le (Nat.le_of_not_lt before), bodyLine, h]
    exact Or.inl rfl

/-! ### From the editor to the expanded text -/

theorem ofPosition_editor {source : List Char} {index : Nat} {line : Line}
    (hline : (Text.splitLines source)[index]? = some line) (character : Int) :
    Cursor.ofPosition source index character true =
      ⟨index + 1, max 0 (character - (Text.indentation line).length)⟩ := by
  have here : lineAt source index = line := by
    rw [lineAt, if_neg (by omega), Int.toNat_natCast, hline]
    rfl
  rw [Cursor.ofPosition, if_pos rfl, here]
  rfl

/-- The caret goes where its line goes, and into the content as far as before. -/
theorem locate_ofPosition {source : List Char} {index : Nat} {line : Line}
    (hline : (Text.splitLines source)[index]? = some line) (character : Int) :
    (expand source).locate (Cursor.ofPosition source index character true) =
      ⟨index + shift (Text.splitLines source) index + 1,
        max 0 (character - (Text.indentation line).length) + columnOffset line.kind⟩ := by
  rw [ofPosition_editor hline]
  exact locate_expand hline rfl

/-- **A caret stays at its character.** On a line that is not blank the same content follows it; in a
blank line it goes to the start of what the line becomes. -/
theorem caret_expand {source : List Char} {index : Nat} {line : Line}
    (hline : (Text.splitLines source)[index]? = some line) (character : Int) :
    let caret := (expand source).locate (Cursor.ofPosition source index character true)
    ∃ out, 1 ≤ caret.line ∧ 0 ≤ caret.column ∧
      (Text.splitFeeds (expand source).text)[(caret.line - 1).toNat]? = some out ∧
      (line.isBlankLine = false →
        Text.indentation out = Text.indentation line ∧
          out.drop ((Text.indentation out).length + caret.column.toNat) =
            line.drop (max character (Text.indentation line).length).toNat) ∧
      (line.isBlankLine = true → character ≤ line.length →
        caret.column = 0 ∧ (out = staveKeyword ∨ out = [])) := by
  intro caret
  have moved : caret = _ := locate_ofPosition hline character
  have there : (caret.line - 1).toNat = index + shift (Text.splitLines source) index := by
    rw [moved]
    show ((index + shift (Text.splitLines source) index + 1 : Int) - 1).toNat = _
    omega
  have column : caret.column =
      max 0 (character - (Text.indentation line).length) + columnOffset line.kind := by rw [moved]
  refine ⟨layoutLine (Text.splitLines source) index line, ?_, by omega, ?_, ?_, ?_⟩
  · rw [moved]
    show (1 : Int) ≤ index + shift (Text.splitLines source) index + 1
    omega
  · rw [there, splitFeeds_expand, getElem?_layout, hline, Option.map_some]
  · intro notBlank
    have kind : line.kind ≠ .blank := fun blank ↦ by
      simp [(Line.kind_eq_blank_iff line).1 blank] at notBlank
    refine ⟨indentation_layoutLine hline kind, ?_⟩
    have behind := drop_layoutLine hline kind
      (max 0 (character - (Text.indentation line).length)).toNat
    -- What is left is arithmetic: a caret within the indentation counts as standing at its end.
    rw [indentation_layoutLine hline kind, column]
    convert behind using 2 <;> omega
  · intro blank inside
    have kind := (Line.kind_eq_blank_iff line).2 blank
    have all : Text.indentation line = line := by simpa [Line.isBlankLine] using blank
    refine ⟨?_, layoutLine_of_blank _ index kind⟩
    rw [column, kind, all]
    simp only [columnOffset]
    omega

/-- In front of the equals sign of indented options, the caret goes behind the key again. -/
theorem caret_expand_options :
    (Text.splitLines "title x\n  a=1".toList)[1]? = some "  a=1".toList ∧
      ∃ out, (Text.splitFeeds (expand "title x\n  a=1".toList).text)[1]? = some out ∧
        out.drop 12 = "=1".toList := by
  have hline : (Text.splitLines "title x\n  a=1".toList)[1]? = some "  a=1".toList := by decide
  have caret : (expand "title x\n  a=1".toList).locate
      (Cursor.ofPosition "title x\n  a=1".toList (1 : Nat) 3 true) = ⟨2, 10⟩ := by decide
  obtain ⟨out, -, -, hout, moved, -⟩ := caret_expand hline 3
  obtain ⟨same, rest⟩ := moved (by decide)
  rw [caret] at hout rest
  rw [same] at rest
  exact ⟨hline, out, hout, rest⟩

end Tabstave.Stave
