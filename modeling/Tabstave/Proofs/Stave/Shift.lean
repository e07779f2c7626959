import Tabstave.Proofs.Stave.Layout
import Tabstave.Proofs.Text.Lines

/-!
# Where the lines of a source go

In the layout every line of the source stays on its line, but for those from an opener of its own
on, which move down by one: that is the `shift` of a line. `getElem?_layout` says that the layout has
its lines there, and `exists_of_lt_length_layout` that it has nothing else but the opener.

`splitFeeds_expand` carries this over to the expanded text: cutting it at its line feeds gives the
layout back, because no line of the layout holds one.
-/

namespace Tabstave.Stave

/-! ### The shift -/

/-- By how many lines the content of the line at an index moves down. -/
def shift (lines : List Line) (index : Nat) : Nat :=
  if needsOpener lines ∧ staveStart lines ≤ index then 1 else 0

theorem shift_of_lt {lines : List Line} {index : Nat} (h : index < staveStart lines) :
    shift lines index = 0 :=
  if_neg fun moved ↦ absurd moved.2 (Nat.not_le_of_lt h)

theorem shift_of_lt_preambleEnd {lines : List Line} {index : Nat} (h : index < preambleEnd lines) :
    shift lines index = 0 :=
  shift_of_lt (h.trans_le (preambleEnd_le_staveStart lines))

theorem shift_of_not_needsOpener {lines : List Line} (h : needsOpener lines = false) (index : Nat) :
    shift lines index = 0 :=
  if_neg fun moved ↦ absurd moved.1 (by simp [h])

theorem shift_of_le {lines : List Line} {index : Nat} (needs : needsOpener lines = true)
    (h : staveStart lines ≤ index) : shift lines index = 1 :=
  if_pos ⟨needs, h⟩

theorem shift_mono (lines : List Line) {first second : Nat} (h : first ≤ second) :
    shift lines first ≤ shift lines second := by
  by_cases moved : needsOpener lines = true ∧ staveStart lines ≤ first
  · rw [shift_of_le moved.1 moved.2, shift_of_le moved.1 (moved.2.trans h)]
  · rw [shift, if_neg moved]
    exact Nat.zero_le _

/-- No two lines are carried to the same place. -/
theorem eq_of_add_shift_eq {lines : List Line} {first second : Nat}
    (h : first + shift lines first = second + shift lines second) : first = second := by
  rcases Nat.lt_trichotomy first second with less | same | more
  · have := shift_mono lines less.le
    omega
  · exact same
  · have := shift_mono lines more.le
    omega

/-! ### The lines of the layout -/

theorem length_layout (lines : List Line) :
    (layout lines).length = lines.length + if needsOpener lines then 1 else 0 := by
  rw [layout]
  cases needs : needsOpener lines with
  | true =>
    have inside := staveStart_lt_of_needsOpener needs
    simp [List.length_insertIdx_of_le_length, inside.le]
  | false => simp

/-- The layout ends with the last line of the source. -/
theorem length_layout_eq_succ {lines : List Line} (h : lines ≠ []) :
    (layout lines).length = lines.length - 1 + shift lines (lines.length - 1) + 1 := by
  have some_line := List.length_pos_iff.2 h
  rw [length_layout]
  cases needs : needsOpener lines with
  | true =>
    have start := staveStart_lt_of_needsOpener needs
    rw [shift_of_le needs (by omega), if_pos rfl]
    omega
  | false =>
    rw [shift_of_not_needsOpener needs, if_neg (by simp)]
    omega

/-- Every line of the source is carried to its index and shift. -/
theorem getElem?_layout (lines : List Line) (index : Nat) :
    (layout lines)[index + shift lines index]? = lines[index]?.map (layoutLine lines index) := by
  rw [layout]
  cases needs : needsOpener lines with
  | true =>
    rw [if_pos rfl]
    by_cases before : index < staveStart lines
    · rw [shift_of_lt before, Nat.add_zero, List.getElem?_insertIdx_of_lt before,
        List.getElem?_mapIdx]
    · have hfrom : staveStart lines ≤ index := Nat.le_of_not_lt before
      rw [shift_of_le needs hfrom, List.getElem?_insertIdx_of_gt (by omega), Nat.add_sub_cancel,
        List.getElem?_mapIdx]
  | false =>
    rw [if_neg (by simp), shift_of_not_needsOpener needs, Nat.add_zero, List.getElem?_mapIdx]

/-- The opener of its own stands where the stave material begins. -/
theorem getElem?_layout_staveStart {lines : List Line} (needs : needsOpener lines = true) :
    (layout lines)[staveStart lines]? = some staveKeyword := by
  have inside := staveStart_lt_of_needsOpener needs
  rw [layout, if_pos needs, List.getElem?_insertIdx_self, if_pos (by simp [inside.le])]

/-- There is nothing else in the layout. -/
theorem exists_of_lt_length_layout {lines : List Line} {position : Nat}
    (h : position < (layout lines).length) :
    (∃ index, index < lines.length ∧ position = index + shift lines index) ∨
      (needsOpener lines = true ∧ position = staveStart lines) := by
  rw [length_layout] at h
  cases needs : needsOpener lines with
  | true =>
    have inside := staveStart_lt_of_needsOpener needs
    rw [needs, if_pos rfl] at h
    rcases Nat.lt_trichotomy position (staveStart lines) with before | same | behind
    · exact Or.inl ⟨position, by omega, by rw [shift_of_lt before, Nat.add_zero]⟩
    · exact Or.inr ⟨rfl, same⟩
    · refine Or.inl ⟨position - 1, by omega, ?_⟩
      rw [shift_of_le needs (by omega)]
      omega
  | false =>
    rw [needs, if_neg (by simp)] at h
    exact Or.inl ⟨position, h, by rw [shift_of_not_needsOpener needs, Nat.add_zero]⟩

/-- A line of the layout is carried there from the source, or it is the opener of its own. -/
theorem getElem?_layout_cases {lines : List Line} {position : Nat} {out : Line}
    (h : (layout lines)[position]? = some out) :
    (∃ index line, lines[index]? = some line ∧ position = index + shift lines index ∧
      out = layoutLine lines index line) ∨
      (needsOpener lines = true ∧ position = staveStart lines ∧ out = staveKeyword) := by
  rcases exists_of_lt_length_layout (List.getElem?_eq_some_iff.1 h).1 with
    ⟨index, inside, rfl⟩ | ⟨needs, rfl⟩
  · rw [getElem?_layout, List.getElem?_eq_getElem inside, Option.map_some] at h
    exact Or.inl ⟨index, _, List.getElem?_eq_getElem inside, rfl, (Option.some.inj h).symm⟩
  · rw [getElem?_layout_staveStart needs] at h
    exact Or.inr ⟨needs, rfl, (Option.some.inj h).symm⟩

/-! ### The expanded text has the lines of the layout -/

theorem feed_notMem_bodyLine {line : Line} (h : '\n' ∉ line) : '\n' ∉ bodyLine line := by
  unfold bodyLine
  split
  · decide
  · intro feed
    rcases List.mem_append.1 feed with inside | inside
    · exact h (Text.mem_of_mem_indentation inside)
    · rcases List.mem_append.1 inside with lead | inside
      · exact absurd lead (by decide)
      · exact h (Text.mem_of_mem_content inside)
  · exact h

theorem feed_notMem_layoutLine {line : Line} (lines : List Line) (index : Nat) (h : '\n' ∉ line) :
    '\n' ∉ layoutLine lines index line := by
  unfold layoutLine headLine
  split
  · split
    · exact List.not_mem_nil
    · exact h
  · exact feed_notMem_bodyLine h

theorem feed_notMem_of_mem_layout {lines : List Line} (h : ∀ line ∈ lines, '\n' ∉ line) :
    ∀ line ∈ layout lines, '\n' ∉ line := by
  intro out mem
  obtain ⟨position, found⟩ := List.mem_iff_getElem?.1 mem
  rcases getElem?_layout_cases found with ⟨index, line, hline, -, rfl⟩ | ⟨-, -, rfl⟩
  · exact feed_notMem_layoutLine lines index (h line (List.mem_of_getElem? hline))
  · decide

theorem layout_ne_nil {lines : List Line} (h : lines ≠ []) : layout lines ≠ [] := by
  intro none
  have length := length_layout lines
  rw [none, List.length_nil] at length
  exact h (List.length_eq_zero_iff.1 (by omega))

/-- Cutting the expanded text at its line feeds gives the layout back. -/
theorem splitFeeds_expand (source : List Char) :
    Text.splitFeeds (expand source).text = layout (Text.splitLines source) := by
  show Text.splitFeeds (Text.joinLines (emittedLines (placements false _))) = _
  rw [emittedLines_placements]
  exact Text.splitFeeds_joinLines (layout_ne_nil (Text.splitLines_ne_nil source))
    (feed_notMem_of_mem_layout Text.feed_notMem_of_mem_splitLines)

end Tabstave.Stave
