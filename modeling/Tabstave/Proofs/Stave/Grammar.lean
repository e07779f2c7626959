import Tabstave.Proofs.Stave.LineMap

/-!
# Expanded sources are explicit

An expanded source says by itself which staves it opens. `Explicit` spells this out for the lines of
a text, sorted into kinds anew: no options without their directive, no content without an opener
above it, and no blank line once a stave is open.

It all comes down to the kinds of the lines of the layout. `kind_bodyLine` settles the lines that
expanding writes, for every indentation; `exists_opener` finds the opener that the stave material
has, on a line of its own, in the gap, or in its own first line; and `kind_ne_staveOpen_of_lt` says
that nothing opens a stave in front of the preamble.
-/

namespace List

theorem mem_take_iff_getElem? {α : Type*} {a : α} {l : List α} {n : Nat} :
    a ∈ l.take n ↔ ∃ i < n, l[i]? = some a := by
  rw [mem_iff_getElem?]
  constructor
  · rintro ⟨i, found⟩
    rw [getElem?_take] at found
    split at found
    · exact ⟨i, ‹_›, found⟩
    · cases found
  · rintro ⟨i, inside, found⟩
    exact ⟨i, by rw [getElem?_take_of_lt inside, found]⟩

end List

namespace Tabstave.Stave

/-- What makes the lines of a text explicit. -/
structure Explicit (out : List Line) : Prop where
  /-- Options stand behind their directive. -/
  options : ∀ line ∈ out, line.kind ≠ .staveOptions
  /-- Content stands in a stave. -/
  content : ∀ (position : Nat) (line : Line), out[position]? = some line → line.kind = .content →
    ∃ opener ∈ out.take position, opener.kind = .staveOpen
  /-- A blank line is empty, and no stave is open there. -/
  blank : ∀ (position : Nat) (line : Line), out[position]? = some line → line.kind = .blank →
    line = [] ∧ ∀ above ∈ out.take position, above.kind ≠ .staveOpen
  /-- The last line is not empty. -/
  last : ∃ line, out.getLast? = some line ∧ line ≠ []

/-! ### The kinds of the lines of the layout -/

/-- The kind that a line has after expanding. -/
def bodyKind : LineKind → LineKind
  | .blank | .staveOptions => .staveOpen
  | kind => kind

/-- Whatever the indentation, a line with its directive put in opens a stave. -/
theorem kind_bodyLine (line : Line) : (bodyLine line).kind = bodyKind line.kind := by
  cases kind : line.kind <;> simp only [bodyLine, kind, bodyKind]
  · exact Line.kind_staveKeyword
  · have written : Text.indentation line ++ (staveLead ++ Text.content line) =
        Text.indentation line ++ (staveKeyword ++ ' ' :: Text.content line) := by
      simp [staveLead]
    rw [written]
    exact Line.kind_pad_staveKeyword (fun _ ↦ Text.isBlank_of_mem_indentation) (by rfl)

theorem kind_headLine (line : Line) : (headLine line).kind = line.kind := by
  unfold headLine
  split
  · next blank => rw [blank]; rfl
  · rfl

theorem kind_layoutLine_of_le {lines : List Line} {index : Nat} (h : preambleEnd lines ≤ index)
    (line : Line) : (layoutLine lines index line).kind = bodyKind line.kind := by
  rw [layoutLine_of_le h, kind_bodyLine]

theorem kind_layoutLine_of_lt {lines : List Line} {index : Nat} (h : index < preambleEnd lines)
    (line : Line) : (layoutLine lines index line).kind = line.kind := by
  rw [layoutLine_of_lt h, kind_headLine]

/-! ### The first opener -/

/-- Stave material has an opener. Only if it does not start with content may the opener be the line
that it starts with. -/
theorem exists_opener {lines : List Line} {first : Line}
    (hfirst : lines[staveStart lines]? = some first) :
    ∃ (position : Nat) (opener : Line), (layout lines)[position]? = some opener ∧
      opener.kind = .staveOpen ∧
      (position < staveStart lines + shift lines (staveStart lines) ∨
        position = staveStart lines + shift lines (staveStart lines) ∧ first.kind ≠ .content) := by
  have stave := isStave_staveStart hfirst
  by_cases content : first.kind = .content
  · by_cases needs : needsOpener lines = true
    · refine ⟨staveStart lines, staveKeyword, getElem?_layout_staveStart needs,
        Line.kind_staveKeyword, Or.inl ?_⟩
      rw [shift_of_le needs (Nat.le_refl _)]
      exact Nat.lt_succ_self _
    · -- Nothing but a blank line in the gap can have taken the need away.
      obtain ⟨line, mem, blank⟩ : ∃ line ∈ gap lines, line.kind = .blank := by
        by_contra none
        refine needs ?_
        rw [needsOpener, hfirst, Bool.and_eq_true, List.all_eq_true]
        refine ⟨by simpa using content, fun line mem ↦ ?_⟩
        exact decide_eq_true fun blank ↦ none ⟨line, mem, blank⟩
      obtain ⟨index, low, high, hline⟩ := exists_getElem?_of_mem_gap mem
      refine ⟨index + shift lines index, layoutLine lines index line, ?_, ?_, Or.inl ?_⟩
      · rw [getElem?_layout, hline, Option.map_some]
      · rw [kind_layoutLine_of_le low, blank]
        rfl
      · rw [shift_of_lt high]
        omega
  · -- An opener, or options with their directive, is itself what opens the stave.
    refine ⟨_, layoutLine lines (staveStart lines) first, ?_, ?_, Or.inr ⟨rfl, content⟩⟩
    · rw [getElem?_layout, hfirst, Option.map_some]
    · rw [kind_layoutLine_of_le (preambleEnd_le_staveStart lines)]
      cases kind : first.kind <;> simp_all [LineKind.isStave, bodyKind]

/-- Nothing opens a stave in front of the preamble that led the source. -/
theorem kind_ne_staveOpen_of_lt {lines : List Line} {position : Nat} {out : Line}
    (hout : (layout lines)[position]? = some out) (h : position < preambleEnd lines) :
    out.kind ≠ .staveOpen := by
  have le := preambleEnd_le_staveStart lines
  rcases getElem?_layout_cases hout with ⟨index, line, hline, rfl, rfl⟩ | ⟨-, rfl, -⟩
  · have before : index < preambleEnd lines := by omega
    rw [kind_layoutLine_of_lt before]
    intro opens
    have stave := isStave_of_lt_preambleEnd hline before
    simp [opens, LineKind.isStave] at stave
  · omega

/-! ### The lines of the layout are explicit -/

/-- What stands at a place of stave material below the first has an opener above it, and so has
content that stands at the first. -/
theorem exists_opener_mem_take {lines : List Line} {index : Nat} {line : Line}
    (hline : lines[index]? = some line) (h : staveStart lines ≤ index)
    (content : index = staveStart lines → line.kind = .content) :
    ∃ opener ∈ (layout lines).take (index + shift lines index), opener.kind = .staveOpen := by
  obtain ⟨inside, -⟩ := List.getElem?_eq_some_iff.1 hline
  have hfirst := List.getElem?_eq_getElem (show staveStart lines < lines.length by omega)
  obtain ⟨position, opener, hopener, opens, place⟩ := exists_opener hfirst
  refine ⟨opener, List.mem_take_iff_getElem?.2 ⟨position, ?_, hopener⟩, opens⟩
  have mono := shift_mono lines h
  rcases place with before | ⟨same, other⟩
  · omega
  · have ne : index ≠ staveStart lines := by
      rintro rfl
      obtain rfl := Option.some.inj (hfirst.symm.trans hline)
      exact other (content rfl)
    omega

theorem explicit_layout {lines : List Line} (some_line : lines ≠ []) : Explicit (layout lines) where
  options out mem := by
    obtain ⟨position, found⟩ := List.mem_iff_getElem?.1 mem
    rcases getElem?_layout_cases found with ⟨index, line, hline, -, rfl⟩ | ⟨-, -, rfl⟩
    · by_cases before : index < preambleEnd lines
      · rw [kind_layoutLine_of_lt before]
        have stave := isStave_of_lt_preambleEnd hline before
        intro options
        simp [options, LineKind.isStave] at stave
      · rw [kind_layoutLine_of_le (Nat.le_of_not_lt before)]
        cases line.kind <;> simp [bodyKind]
    · simp
  content position out found content := by
    rcases getElem?_layout_cases found with ⟨index, line, hline, rfl, rfl⟩ | ⟨-, -, rfl⟩
    · have kind : line.kind = .content := by
        by_cases before : index < preambleEnd lines
        · rwa [kind_layoutLine_of_lt before] at content
        · rw [kind_layoutLine_of_le (Nat.le_of_not_lt before)] at content
          cases kind : line.kind <;> simp_all [bodyKind]
      refine exists_opener_mem_take hline ?_ fun _ ↦ kind
      by_contra before
      have stave := isStave_of_lt_staveStart hline (Nat.lt_of_not_le before)
      simp [kind, LineKind.isStave] at stave
    · simp at content
  blank position out found blank := by
    rcases getElem?_layout_cases found with ⟨index, line, hline, rfl, rfl⟩ | ⟨-, -, rfl⟩
    · -- After the preamble every blank line has become an opener.
      have before : index < preambleEnd lines := by
        by_contra behind
        rw [kind_layoutLine_of_le (Nat.le_of_not_lt behind)] at blank
        cases kind : line.kind <;> simp_all [bodyKind]
      have stays := shift_of_lt_preambleEnd before
      refine ⟨?_, fun above mem ↦ ?_⟩
      · rw [kind_layoutLine_of_lt before] at blank
        rw [layoutLine_of_lt before, headLine, if_pos blank]
      · obtain ⟨place, higher, habove⟩ := List.mem_take_iff_getElem?.1 mem
        exact kind_ne_staveOpen_of_lt habove (by omega)
    · simp at blank
  last := by
    have inside := Nat.sub_one_lt_of_lt (List.length_pos_iff.2 some_line)
    have hline := List.getElem?_eq_getElem inside
    set line := lines[lines.length - 1] with final
    refine ⟨layoutLine lines (lines.length - 1) line, ?_, fun none ↦ ?_⟩
    · rw [List.getLast?_eq_getElem?, length_layout_eq_succ some_line, Nat.add_sub_cancel,
        getElem?_layout, hline, Option.map_some]
    · have blank : (layoutLine lines (lines.length - 1) line).kind = .blank := by
        rw [none]
        rfl
      by_cases before : lines.length - 1 < preambleEnd lines
      · -- Then the last line is the last of the preamble, which is not blank.
        have le := (preambleEnd_le_staveStart lines).trans (staveStart_le_length lines)
        have preamble := isPreamble_of_succ_eq_preambleEnd hline (by omega)
        rw [kind_layoutLine_of_lt before] at blank
        simp [blank, LineKind.isPreamble] at preamble
      · rw [kind_layoutLine_of_le (Nat.le_of_not_lt before)] at blank
        cases kind : line.kind <;> simp_all [bodyKind]

/-- Preamble is carried over as it is. -/
theorem layoutLine_of_isPreamble (lines : List Line) (index : Nat) {line : Line}
    (h : line.kind.isPreamble = true) : layoutLine lines index line = line := by
  cases kind : line.kind <;> simp_all [layoutLine, headLine, bodyLine, LineKind.isPreamble]

/-- Below preamble that is carried over, an opener and stave material stand above it together. -/
theorem exists_opener_iff_of_isPreamble {lines : List Line} {index : Nat} {line : Line}
    (hline : lines[index]? = some line) (preamble : line.kind.isPreamble = true) :
    (∃ opener ∈ (layout lines).take (index + shift lines index), opener.kind = .staveOpen) ↔
      ∃ stave ∈ lines.take index, stave.kind.isStave = true := by
  constructor
  · rintro ⟨opener, mem, opens⟩
    obtain ⟨position, above, hopener⟩ := List.mem_take_iff_getElem?.1 mem
    rcases lt_preambleEnd_or_staveStart_lt hline preamble with before | behind
    · have stays := shift_of_lt_preambleEnd before
      exact absurd opens (kind_ne_staveOpen_of_lt hopener (by omega))
    · obtain ⟨inside, -⟩ := List.getElem?_eq_some_iff.1 hline
      have hfirst := List.getElem?_eq_getElem (behind.trans inside)
      exact ⟨_, List.mem_take_iff_getElem?.2 ⟨_, behind, hfirst⟩, isStave_staveStart hfirst⟩
  · rintro ⟨stave, mem, material⟩
    obtain ⟨place, above, hstave⟩ := List.mem_take_iff_getElem?.1 mem
    have start : staveStart lines ≤ place := by
      by_contra before
      rw [isStave_of_lt_staveStart hstave (Nat.lt_of_not_le before)] at material
      cases material
    exact exists_opener_mem_take hline (by omega) fun same ↦ by omega

/-- **An expanded source is explicit**, and no stave is opened above preamble but where the source
has stave material above it. -/
theorem explicit_expand (source : List Char) :
    Explicit (Text.splitFeeds (expand source).text) ∧
      ∀ (index : Nat) (line : Line), (Text.splitLines source)[index]? = some line →
        line.kind.isPreamble = true →
        ∃ entry, (expand source).lineMap[index]? = some entry ∧
          (Text.splitFeeds (expand source).text)[entry.expandedLine - 1]? = some line ∧
          ((∃ opener ∈ (Text.splitFeeds (expand source).text).take (entry.expandedLine - 1),
              opener.kind = .staveOpen) ↔
            ∃ stave ∈ (Text.splitLines source).take index, stave.kind.isStave = true) := by
  rw [splitFeeds_expand]
  refine ⟨explicit_layout (Text.splitLines_ne_nil source), fun index line hline preamble ↦ ?_⟩
  refine ⟨layoutEntry (Text.splitLines source) index line, ?_, ?_, ?_⟩
  · rw [getElem?_lineMap_expand, hline, Option.map_some]
  · rw [layoutEntry, Nat.add_sub_cancel, getElem?_layout, hline, Option.map_some,
      layoutLine_of_isPreamble _ _ preamble]
  · rw [layoutEntry, Nat.add_sub_cancel]
    exact exists_opener_iff_of_isPreamble hline preamble

end Tabstave.Stave
