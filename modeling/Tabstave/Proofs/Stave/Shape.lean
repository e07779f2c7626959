import Tabstave.Proofs.Stave.LineMap

/-!
# The shape of the line map

`Expansion.Shape` collects what holds of the line map of any source, expanded or let through: it has
an entry for every line, it ends where the text ends, and at most one line is put in, from which on
all others have moved down. Expanding, it all comes from `lineMap_expand` and the shift; of a source
that is let through, nothing moves. In both cases no two lines go to the same place, which is all
that `LineMap.carries_of_injective` asks for.
-/

namespace Tabstave

namespace LineMap

/-- A line of the expanded text, counted from one, carries the content of exactly one source line. -/
def Carries (map : LineMap) (number : Nat) : Prop :=
  ∃! index : Nat, map[index]?.map Entry.expandedLine = some number

/-- If no two lines go to the same place, the place of every line carries that line only. -/
theorem carries_of_injective {map : LineMap} {lines : List Line} {entry : Nat → Line → Entry}
    (place : Nat → Nat) (found : ∀ index, map[index]? = lines[index]?.map (entry index))
    (expanded : ∀ index line, (entry index line).expandedLine = place index)
    (injective : Function.Injective place) {index : Nat} (h : index < lines.length) :
    map.Carries (place index) := by
  refine ⟨index, ?_, fun other same ↦ injective ?_⟩
  · simp only [found, List.getElem?_eq_getElem h, Option.map_some, expanded]
  · simp only [found, Option.map_map, Option.map_eq_some_iff] at same
    obtain ⟨line, -, same⟩ := same
    rw [← same, Function.comp_apply, expanded]

end LineMap

namespace Stave

/-- From the line at an index on, where content has got an opener in front of it, all lines move
down by one; the lines above it stay. -/
def Expansion.MovedFrom (expansion : Expansion) (start : Nat) : Prop :=
  (∃ entry, expansion.lineMap[start]? = some entry ∧ entry.kind = .content) ∧
    (∀ index entry, expansion.lineMap[index]? = some entry →
      entry.expandedLine = entry.sourceLine + if index < start then 0 else 1) ∧
    (Text.splitFeeds expansion.text)[start]? = some staveKeyword

/-- The shape of the line map of a source, given its lines. -/
structure Expansion.Shape (shortForm : Bool) (lines : List Line) (expansion : Expansion) : Prop where
  /-- Every source line has an entry. -/
  length_eq : expansion.lineMap.length = lines.length
  /-- The entries are in the order of the source, with the kinds of its lines. -/
  entry : ∀ index entry, expansion.lineMap[index]? = some entry →
    entry.sourceLine = index + 1 ∧ lines[index]?.map Line.kind = some entry.kind
  /-- The last entry is on the last line of the text. -/
  last : expansion.lineMap.getLast?.map LineMap.Entry.expandedLine = some expansion.lineCount
  /-- At most one line is put in. -/
  lineCount : expansion.lineCount = lines.length ∨ expansion.lineCount = lines.length + 1
  /-- In short form either all lines stay, or there is one place from which they move down. -/
  moved : shortForm = true →
    (∀ entry ∈ expansion.lineMap, entry.expandedLine = entry.sourceLine) ∨
      ∃! start, expansion.MovedFrom start
  /-- All lines of the text but one at most carry the content of exactly one source line. -/
  carries : ∀ first second, 1 ≤ first → first ≤ expansion.lineCount → 1 ≤ second →
    second ≤ expansion.lineCount → ¬expansion.lineMap.Carries first →
      ¬expansion.lineMap.Carries second → first = second
  /-- Only stave options move to the right, by their directive. -/
  columnOffset : ∀ entry ∈ expansion.lineMap, entry.columnOffset =
    if shortForm = true ∧ entry.kind = .staveOptions then 9 else 0
  /-- Cursors down to the last line of the source keep their order. -/
  before : ∀ first second : Cursor, first.line ≤ lines.length → second.line ≤ lines.length →
    first.Before second → (expansion.locate first).Before (expansion.locate second)

/-! ### Expanded sources -/

theorem lineCount_expand (source : List Char) :
    (expand source).lineCount = (layout (Text.splitLines source)).length :=
  congrArg List.length (splitFeeds_expand source)

theorem carries_expand {source : List Char} {index : Nat}
    (h : index < (Text.splitLines source).length) :
    (expand source).lineMap.Carries (index + shift (Text.splitLines source) index + 1) :=
  LineMap.carries_of_injective (fun index ↦ index + shift (Text.splitLines source) index + 1)
    (getElem?_lineMap_expand source) (fun _ _ ↦ rfl)
    (fun _ _ same ↦ eq_of_add_shift_eq (Nat.succ_injective same)) h

theorem movedFrom_expand {source : List Char}
    (needs : needsOpener (Text.splitLines source) = true) :
    (expand source).MovedFrom (staveStart (Text.splitLines source)) := by
  obtain ⟨line, hline, content⟩ := exists_content_of_needsOpener needs
  refine ⟨⟨_, by rw [getElem?_lineMap_expand, hline, Option.map_some], content⟩, ?_, ?_⟩
  · intro index entry found
    obtain ⟨other, -, rfl⟩ := exists_eq_layoutEntry found
    show index + shift _ index + 1 = index + 1 + _
    split
    · rw [shift_of_lt ‹_›]
    · rw [shift_of_le needs (Nat.le_of_not_lt ‹_›)]
  · rw [splitFeeds_expand, getElem?_layout_staveStart needs]

/-- There is one such place at most: of two, the line at the first one would both move and stay. -/
theorem eq_of_movedFrom {expansion : Expansion} {first second : Nat}
    (h : expansion.MovedFrom first) (h' : expansion.MovedFrom second) : first = second := by
  obtain ⟨⟨entry, hfirst, -⟩, moved, -⟩ := h
  obtain ⟨⟨entry', hsecond, -⟩, moved', -⟩ := h'
  have there := moved first entry hfirst
  have other := moved' first entry hfirst
  have there' := moved' second entry' hsecond
  have other' := moved second entry' hsecond
  rw [if_neg (Nat.lt_irrefl _)] at there there'
  split at other <;> split at other' <;> omega

theorem shape_expand (source : List Char) :
    (expand source).Shape true (Text.splitLines source) where
  length_eq := by rw [lineMap_expand, List.length_mapIdx]
  entry index entry found := by
    obtain ⟨line, hline, rfl⟩ := exists_eq_layoutEntry found
    exact ⟨rfl, by rw [hline]; rfl⟩
  last := by
    have some_line := Text.splitLines_ne_nil source
    have inside := Nat.sub_one_lt_of_lt (List.length_pos_iff.2 some_line)
    rw [List.getLast?_eq_getElem?, lineMap_expand, List.length_mapIdx, List.getElem?_mapIdx,
      List.getElem?_eq_getElem inside, lineCount_expand, length_layout_eq_succ some_line]
    rfl
  lineCount := by
    rw [lineCount_expand, length_layout]
    split
    · exact Or.inr rfl
    · exact Or.inl rfl
  moved _ := by
    cases needs : needsOpener (Text.splitLines source) with
    | true =>
      exact Or.inr ⟨_, movedFrom_expand needs, fun _ moved ↦
        eq_of_movedFrom moved (movedFrom_expand needs)⟩
    | false =>
      refine Or.inl fun entry mem ↦ ?_
      obtain ⟨index, line, rfl⟩ := exists_eq_layoutEntry_of_mem mem
      simp only [layoutEntry, shift_of_not_needsOpener needs, Nat.add_zero]
  carries first second low high low' high' none none' := by
    -- A line that carries none is the opener of its own, and of that there is one.
    have opener : ∀ number, 1 ≤ number → number ≤ (expand source).lineCount →
        ¬(expand source).lineMap.Carries number →
        number = staveStart (Text.splitLines source) + 1 := by
      intro number low high none
      rw [lineCount_expand] at high
      have within : number - 1 < (layout (Text.splitLines source)).length := by omega
      rcases exists_of_lt_length_layout within with ⟨index, inside, same⟩ | ⟨-, same⟩
      · have carries := carries_expand inside
        rw [← same, Nat.sub_add_cancel low] at carries
        exact absurd carries none
      · omega
    rw [opener first low high none, opener second low' high' none']
  columnOffset entry mem := by
    obtain ⟨index, line, rfl⟩ := exists_eq_layoutEntry_of_mem mem
    cases kind : line.kind <;> simp [layoutEntry, kind, columnOffset, staveLead, staveKeyword]
  before _ _ := before_locate_expand source

/-! ### Sources let through -/

theorem lineCount_passThrough (source : List Char) :
    (passThrough source).lineCount = (Text.splitLines source).length := by
  rw [Text.length_splitLines, ← Text.length_splitFeeds]
  rfl

theorem carries_passThrough {source : List Char} {index : Nat}
    (h : index < (Text.splitLines source).length) :
    (passThrough source).lineMap.Carries (index + 1) :=
  LineMap.carries_of_injective Nat.succ (getElem?_lineMap_passThrough source) (fun _ _ ↦ rfl)
    Nat.succ_injective h

theorem shape_passThrough (source : List Char) :
    (passThrough source).Shape false (Text.splitLines source) where
  length_eq := LineMap.length_identityFrom 1 _
  entry index entry found := by
    rw [getElem?_lineMap_passThrough, Option.map_eq_some_iff] at found
    obtain ⟨line, hline, rfl⟩ := found
    exact ⟨rfl, by rw [hline]; rfl⟩
  last := by
    have some_line := List.length_pos_iff.2 (Text.splitLines_ne_nil source)
    have inside : (Text.splitLines source).length - 1 < (Text.splitLines source).length := by omega
    have length : (passThrough source).lineMap.length = (Text.splitLines source).length :=
      LineMap.length_identityFrom 1 _
    rw [List.getLast?_eq_getElem?, length, getElem?_lineMap_passThrough,
      List.getElem?_eq_getElem inside, lineCount_passThrough]
    simp only [Option.map_some, Nat.sub_add_cancel some_line]
  lineCount := Or.inl (lineCount_passThrough source)
  moved short := absurd short (by decide)
  carries first second low high low' high' none := by
    rw [lineCount_passThrough] at high
    have within : first - 1 < (Text.splitLines source).length := by omega
    have carries := carries_passThrough within
    rw [Nat.sub_add_cancel low] at carries
    exact absurd carries none
  columnOffset entry mem := by
    obtain ⟨index, found⟩ := List.mem_iff_getElem?.1 mem
    rw [getElem?_lineMap_passThrough, Option.map_eq_some_iff] at found
    obtain ⟨line, -, rfl⟩ := found
    rfl
  before _ _ _ _ h := h

/-- **The line map has its shape**, whether the source is expanded or let through. -/
theorem shape_expandIf (shortForm : Bool) (source : List Char) :
    (expandIf shortForm source).Shape shortForm (Text.splitLines source) := by
  cases shortForm with
  | true => exact shape_expand source
  | false => exact shape_passThrough source

end Stave

end Tabstave
