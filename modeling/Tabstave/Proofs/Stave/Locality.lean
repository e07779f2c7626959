import Tabstave.Proofs.Document.Recovery

/-!
# Editing a line

Where staves are opened and where lines go is decided by the kinds of the lines alone. So two
sources whose lines are of the same kinds, one by one, are laid out alike: both positions that the layout
looks for are the same, and with them the need of an opener, the shift of every line and its entry.

`expand_of_sameKinds` compares the two expansions. Their line maps are equal, and two expanded lines
differ only where the source lines that they carry do; what a blank line holds does not count.
-/

namespace Tabstave.Stave

/-- Two sources with as many lines, each of the same kind as its counterpart. -/
def SameKinds (first second : List Line) : Prop :=
  List.Forall₂ (fun line other : Line ↦ line.kind = other.kind) first second

namespace SameKinds

variable {first second : List Line}

theorem kind_eq (same : SameKinds first second) {index : Nat} {line other : Line}
    (hline : first[index]? = some line) (hother : second[index]? = some other) :
    line.kind = other.kind := by
  obtain ⟨inside, rfl⟩ := List.getElem?_eq_some_iff.1 hline
  obtain ⟨inside', rfl⟩ := List.getElem?_eq_some_iff.1 hother
  exact same.get inside inside'

/-! ### The positions -/

theorem staveStart_eq (same : SameKinds first second) : staveStart first = staveStart second := by
  induction same with
  | nil => rfl
  | @cons line other rest rest' kind _ ih =>
    cases stave : line.kind.isStave with
    | true =>
      rw [staveStart_cons_of_stave rest stave, staveStart_cons_of_stave rest' (kind ▸ stave)]
    | false => rw [staveStart_cons rest stave, staveStart_cons rest' (kind ▸ stave), ih]

theorem preambleEnd_eq (same : SameKinds first second) :
    preambleEnd first = preambleEnd second := by
  induction same with
  | nil => rfl
  | @cons line other rest rest' kind _ ih =>
    cases stave : line.kind.isStave with
    | true =>
      rw [preambleEnd_cons_of_stave rest stave, preambleEnd_cons_of_stave rest' (kind ▸ stave)]
    | false =>
      rw [preambleEnd_cons rest stave, preambleEnd_cons rest' (kind ▸ stave), ih, kind]

theorem needsOpener_eq (same : SameKinds first second) :
    needsOpener first = needsOpener second := by
  induction same with
  | nil => rfl
  | @cons line other rest rest' kind tail ih =>
    cases stave : line.kind.isStave with
    | true =>
      rw [needsOpener_cons_of_stave rest stave, needsOpener_cons_of_stave rest' (kind ▸ stave),
        kind]
    | false =>
      rw [needsOpener_cons rest stave, needsOpener_cons rest' (kind ▸ stave), ih, kind,
        preambleEnd_eq tail]

theorem shift_eq (same : SameKinds first second) (index : Nat) :
    shift first index = shift second index := by
  rw [shift, shift, same.needsOpener_eq, same.staveStart_eq]

/-! ### The lines -/

/-- A line comes out alike if it is the same in both sources, or blank in both. -/
theorem layoutLine_eq (same : SameKinds first second) (index : Nat) {line other : Line}
    (h : line = other ∨ line.kind = .blank ∧ other.kind = .blank) :
    layoutLine first index line = layoutLine second index other := by
  rw [layoutLine, layoutLine, same.preambleEnd_eq]
  rcases h with rfl | ⟨blank, blank'⟩
  · rfl
  · rw [headLine, headLine, bodyLine, bodyLine, blank, blank']
    rfl

theorem length_layout_eq (same : SameKinds first second) :
    (layout first).length = (layout second).length := by
  rw [length_layout, length_layout, same.length_eq, same.needsOpener_eq]

end SameKinds

/-! ### Two expansions -/

theorem lineMap_expand_of_sameKinds {first second : List Char}
    (same : SameKinds (Text.splitLines first) (Text.splitLines second)) :
    (expand first).lineMap = (expand second).lineMap := by
  refine List.ext_getElem? fun index ↦ ?_
  rw [getElem?_lineMap_expand, getElem?_lineMap_expand]
  rcases Nat.lt_or_ge index (Text.splitLines first).length with inside | beyond
  · have inside' := same.length_eq ▸ inside
    have kind := same.get inside inside'
    rw [List.getElem?_eq_getElem inside, List.getElem?_eq_getElem inside', Option.map_some,
      Option.map_some, layoutEntry, layoutEntry, same.shift_eq]
    simp only [List.get_eq_getElem] at kind
    rw [kind]
  · have beyond' := same.length_eq ▸ beyond
    rw [List.getElem?_eq_none beyond, List.getElem?_eq_none beyond']
    rfl

/-- The lines that carry two counterparts are equal if these are, or if both are blank. -/
theorem numberedLine?_expand_of_sameKinds {first second : List Char}
    (same : SameKinds (Text.splitLines first) (Text.splitLines second)) {index : Nat}
    {line other : Line} (hline : (Text.splitLines first)[index]? = some line)
    (hother : (Text.splitLines second)[index]? = some other)
    (h : line = other ∨ line.kind = .blank ∧ other.kind = .blank) :
    Text.numberedLine? (expand first).text (index + shift (Text.splitLines first) index + 1) =
      Text.numberedLine? (expand second).text
        (index + shift (Text.splitLines first) index + 1) := by
  rw [numberedLine?_expand, hline, same.shift_eq, numberedLine?_expand, hother, Option.map_some,
    Option.map_some, same.layoutLine_eq index h]

/-- An expanded line that differs carries two counterparts that differ, and are not blank. -/
theorem exists_ne_of_getElem?_layout_ne {first second : List Line}
    (same : SameKinds first second) {position : Nat}
    (h : (layout first)[position]? ≠ (layout second)[position]?) :
    ∃ index line other, position = index + shift first index ∧ first[index]? = some line ∧
      second[index]? = some other ∧ line ≠ other ∧ line.kind ≠ .blank := by
  have inside : position < (layout first).length := by
    by_contra beyond
    rw [Nat.not_lt] at beyond
    refine h ?_
    rw [List.getElem?_eq_none beyond, List.getElem?_eq_none (same.length_layout_eq ▸ beyond)]
  rcases exists_of_lt_length_layout inside with ⟨index, low, rfl⟩ | ⟨needs, rfl⟩
  · have hline := List.getElem?_eq_getElem low
    obtain ⟨other, hother⟩ : ∃ other : Line, second[index]? = some other :=
      ⟨_, List.getElem?_eq_getElem (same.length_eq ▸ low)⟩
    have kind := same.kind_eq hline hother
    have differ : ¬(first[index] = other ∨ first[index].kind = .blank ∧ other.kind = .blank) := by
      intro alike
      refine h ?_
      rw [getElem?_layout, hline, same.shift_eq, getElem?_layout, hother, Option.map_some,
        Option.map_some, same.layoutLine_eq index alike]
    rw [not_or, ← kind, and_self] at differ
    exact ⟨index, _, _, rfl, hline, hother, differ⟩
  · -- The opener put in is the same line in both.
    refine absurd ?_ h
    rw [getElem?_layout_staveStart needs, same.staveStart_eq,
      getElem?_layout_staveStart (same.needsOpener_eq ▸ needs)]

/-- **What a line holds shows in its own expanded line only.** Between sources whose lines are of
the same kinds nothing moves: the line maps and the numbers of lines are equal, and an opener is put
in front of the same line, if of any. Lines that are equal, or both blank, come out equal, and where
two expanded lines differ, they carry lines that differ and are not blank. -/
theorem expand_of_sameKinds {first second : List Char}
    (same : SameKinds (Text.splitLines first) (Text.splitLines second)) :
    (expand first).lineMap = (expand second).lineMap ∧
      (expand first).lineCount = (expand second).lineCount ∧
      (∀ (index : Nat) (entry : LineMap.Entry) (line other : Line),
        (expand first).lineMap[index]? = some entry →
        (Text.splitLines first)[index]? = some line →
        (Text.splitLines second)[index]? = some other →
        (line = other ∨ line.kind = .blank ∧ other.kind = .blank) →
        ∃ out, Text.numberedLine? (expand first).text entry.expandedLine = some out ∧
          Text.numberedLine? (expand second).text entry.expandedLine = some out) ∧
      (∀ index, (expand first).InsertedBefore index ↔ (expand second).InsertedBefore index) ∧
      ∀ number, Text.numberedLine? (expand first).text number ≠
          Text.numberedLine? (expand second).text number →
        ∃ (index : Nat) (entry : LineMap.Entry) (line other : Line),
          (expand first).lineMap[index]? = some entry ∧ entry.expandedLine = number ∧
          (Text.splitLines first)[index]? = some line ∧
          (Text.splitLines second)[index]? = some other ∧ line ≠ other ∧ line.kind ≠ .blank := by
  refine ⟨lineMap_expand_of_sameKinds same, ?_, ?_, fun index ↦ ?_, fun number differ ↦ ?_⟩
  · rw [Expansion.lineCount, Expansion.lineCount, splitFeeds_expand, splitFeeds_expand,
      same.length_layout_eq]
  · intro index entry line other found hline hother alike
    obtain ⟨line', hline', rfl⟩ := exists_eq_layoutEntry found
    obtain rfl := Option.some.inj (hline.symm.trans hline')
    have out : Text.numberedLine? (expand first).text
        (index + shift (Text.splitLines first) index + 1) = _ := numberedLine?_expand first index
    rw [hline, Option.map_some] at out
    exact ⟨_, out, numberedLine?_expand_of_sameKinds same hline hother alike ▸ out⟩
  · rw [insertedBefore_expand_iff, insertedBefore_expand_iff, same.needsOpener_eq,
      same.staveStart_eq]
  · cases number with
    | zero => exact absurd rfl differ
    | succ position =>
      rw [Text.numberedLine?, Text.numberedLine?, splitFeeds_expand, splitFeeds_expand] at differ
      obtain ⟨index, line, other, rfl, hline, hother, unlike⟩ :=
        exists_ne_of_getElem?_layout_ne same differ
      have entry := getElem?_lineMap_expand first index
      rw [hline, Option.map_some] at entry
      exact ⟨index, _, line, other, entry, rfl, hline, hother, unlike⟩

/-- Other notes and another title, and white space gone from a blank line: the options are on the
fifth line in both, and the opener is put in front of the notes. -/
theorem expand_of_sameKinds_notes :
    SameKinds (Text.splitLines "  \ntitle x\n\tnotes 1\na=1".toList)
        (Text.splitLines "\ntitle y\nnotes 2\na=1".toList) ∧
      (∃ out, Text.numberedLine? (expand "  \ntitle x\n\tnotes 1\na=1".toList).text 5 = some out ∧
        Text.numberedLine? (expand "\ntitle y\nnotes 2\na=1".toList).text 5 = some out) ∧
      (expand "\ntitle y\nnotes 2\na=1".toList).InsertedBefore 2 := by
  have same : SameKinds (Text.splitLines "  \ntitle x\n\tnotes 1\na=1".toList)
      (Text.splitLines "\ntitle y\nnotes 2\na=1".toList) := by
    unfold SameKinds
    decide
  obtain ⟨-, -, carried, inserted, -⟩ := expand_of_sameKinds same
  have opener : (expand "  \ntitle x\n\tnotes 1\na=1".toList).InsertedBefore 2 :=
    (insertedBefore_expand_iff _ 2).2 (by decide)
  exact ⟨same, carried 3 ⟨4, 5, 9, .staveOptions⟩ "a=1".toList "a=1".toList (by decide) (by decide)
    (by decide) (Or.inl rfl), (inserted 2).1 opener⟩

end Tabstave.Stave
