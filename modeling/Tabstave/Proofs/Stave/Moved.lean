import Tabstave.Proofs.Lists
import Tabstave.Proofs.Stave.LineMap

/-!
# The lines that moved

A line of the source has moved if its content stands on another line or in another column than
before. Which lines those are can be said without looking at the entries: if an opener has been put
in, they are the lines from there on, and otherwise the lines of stave options, as no line of stave
options stands above an opener that was put in (`moved_expand_of_needsOpener`,
`moved_expand_of_not_needsOpener`).

The lines that moved are all that has to be known of a line map: `restore_moved` gets the places of
all lines back from them, given how many lines there are.
-/

namespace Tabstave

namespace LineMap

/-- The entries are in the order of the source, one for each line. -/
def Numbered (map : LineMap) : Prop :=
  ∀ (index : Nat) (entry : Entry), map[index]? = some entry → entry.sourceLine = index + 1

/-- The entries of the lines that moved. -/
def moved (map : LineMap) : LineMap :=
  map.filter Entry.isShifted

/-- Where a line went: its number, the number of the expanded line and the column offset. -/
def Entry.place (entry : Entry) : Nat × Nat × Nat :=
  (entry.sourceLine, entry.expandedLine, entry.columnOffset)

/-- The places of so many lines, given those of some of them: all others stay where they are. -/
def restore (count : Nat) (places : List (Nat × Nat × Nat)) : List (Nat × Nat × Nat) :=
  (List.range count).map fun index ↦
    (places.find? fun place ↦ place.1 = index + 1).getD (index + 1, index + 1, 0)

/-- A line that has not moved is where it was. -/
theorem Entry.place_of_not_isShifted {entry : Entry} (h : entry.isShifted = false) :
    entry.place = (entry.sourceLine, entry.sourceLine, 0) := by
  obtain ⟨line, column⟩ : entry.sourceLine = entry.expandedLine ∧ entry.columnOffset = 0 := by
    simpa [Entry.isShifted] using h
  rw [place, ← line, column]

namespace Numbered

variable {map : LineMap}

/-- No two entries are of the same line. -/
theorem eq_of_mem (numbered : map.Numbered) {index : Nat} {entry other : Entry}
    (found : map[index]? = some entry) (mem : other ∈ map) (same : other.sourceLine = index + 1) :
    other = entry := by
  obtain ⟨position, there⟩ := List.mem_iff_getElem?.1 mem
  have number := numbered position other there
  obtain rfl : position = index := by omega
  exact Option.some.inj (there.symm.trans found)

/-- From an index on, the entries are of the lines with the next numbers. -/
theorem map_sourceLine_drop (numbered : map.Numbered) (index : Nat) :
    (map.drop index).map Entry.sourceLine = List.range' (index + 1) (map.length - index) := by
  refine List.ext_getElem (by simp) fun place inside _ ↦ ?_
  rw [List.length_map, List.length_drop] at inside
  have found := List.getElem?_eq_getElem (show index + place < map.length by omega)
  rw [List.getElem_map, List.getElem_drop, numbered _ _ found, List.getElem_range']
  omega

/-- Looking a line up among those that moved finds its place, if it moved. -/
theorem find?_moved (numbered : map.Numbered) {index : Nat} {entry : Entry}
    (found : map[index]? = some entry) :
    (map.moved.map Entry.place).find? (fun place ↦ place.1 = index + 1) =
      if entry.isShifted then some entry.place else none := by
  have only : ∀ other ∈ map.moved, other.place.1 = index + 1 → other = entry :=
    fun other mem same ↦ numbered.eq_of_mem found (List.mem_of_mem_filter mem) same
  have number : entry.place.1 = index + 1 := numbered index entry found
  cases shifted : entry.isShifted with
  | false =>
    rw [if_neg Bool.false_ne_true, List.find?_eq_none]
    intro place mem
    obtain ⟨other, there, rfl⟩ := List.mem_map.1 mem
    rw [decide_eq_true_eq]
    intro same
    have moves := (List.mem_filter.1 there).2
    rw [only other there same, shifted] at moves
    cases moves
  | true =>
    have mem : entry ∈ map.moved := List.mem_filter.2 ⟨List.mem_of_getElem? found, shifted⟩
    have some_place : ((map.moved.map Entry.place).find? fun place ↦ place.1 = index + 1).isSome :=
      List.find?_isSome.2 ⟨entry.place, List.mem_map_of_mem mem, decide_eq_true number⟩
    obtain ⟨place, result⟩ := Option.isSome_iff_exists.1 some_place
    obtain ⟨other, there, rfl⟩ := List.mem_map.1 (List.mem_of_find?_eq_some result)
    have same : other.place.1 = index + 1 := by simpa using List.find?_some result
    rw [result, if_pos rfl, only other there same]

/-- **The lines that moved tell the places of all lines.** -/
theorem restore_moved (numbered : map.Numbered) :
    restore map.length (map.moved.map Entry.place) = map.map Entry.place := by
  refine List.ext_getElem? fun index ↦ ?_
  rw [restore, List.getElem?_map, List.getElem?_map]
  rcases Nat.lt_or_ge index map.length with inside | beyond
  · have found := List.getElem?_eq_getElem inside
    rw [List.getElem?_range inside, found, Option.map_some, Option.map_some,
      numbered.find?_moved found]
    cases shifted : map[index].isShifted with
    | true => rfl
    | false =>
      rw [Entry.place_of_not_isShifted shifted, numbered index _ found]
      rfl
  · rw [List.getElem?_eq_none beyond, List.getElem?_eq_none (by simpa using beyond)]
    rfl

end Numbered

end LineMap

namespace Stave

open LineMap (Entry)

theorem numbered_expand (source : List Char) : (expand source).lineMap.Numbered := by
  intro index entry found
  obtain ⟨line, -, rfl⟩ := exists_eq_layoutEntry found
  rfl

theorem numbered_passThrough (source : List Char) : (passThrough source).lineMap.Numbered := by
  intro index entry found
  rw [getElem?_lineMap_passThrough, Option.map_eq_some_iff] at found
  obtain ⟨line, -, rfl⟩ := found
  rfl

/-- A line moves down with its shift and to the right with stave options. -/
theorem isShifted_layoutEntry (lines : List Line) (index : Nat) (line : Line) :
    (layoutEntry lines index line).isShifted = true ↔
      shift lines index ≠ 0 ∨ line.kind = .staveOptions := by
  have down : index + 1 ≠ index + shift lines index + 1 ↔ shift lines index ≠ 0 := by omega
  have right : columnOffset line.kind ≠ 0 ↔ line.kind = .staveOptions := by
    cases line.kind <;> decide
  rw [layoutEntry, Entry.isShifted, Bool.or_eq_true, bne_iff_ne, bne_iff_ne, down, right]

/-- Nothing moves in a source that is let through. -/
theorem moved_passThrough (source : List Char) : (passThrough source).lineMap.moved = [] := by
  refine List.filter_eq_nil_iff.2 fun entry mem ↦ ?_
  obtain ⟨index, found⟩ := List.mem_iff_getElem?.1 mem
  rw [getElem?_lineMap_passThrough, Option.map_eq_some_iff] at found
  obtain ⟨line, -, rfl⟩ := found
  simp [Entry.isShifted]

/-- Where an opener is put in, the lines from there on move. Stave options above it would have
opened a stave themselves. -/
theorem moved_expand_of_needsOpener {source : List Char}
    (needs : needsOpener (Text.splitLines source) = true) :
    (expand source).lineMap.moved =
      (expand source).lineMap.drop (staveStart (Text.splitLines source)) := by
  refine List.filter_eq_drop fun index entry found ↦ ?_
  obtain ⟨line, hline, rfl⟩ := exists_eq_layoutEntry found
  rw [isShifted_layoutEntry]
  rcases Nat.lt_or_ge index (staveStart (Text.splitLines source)) with above | behind
  · have stave := isStave_of_lt_staveStart hline above
    have kind : line.kind ≠ .staveOptions := by
      intro options
      rw [options] at stave
      cases stave
    simp [shift_of_lt above, kind, above]
  · simp [shift_of_le needs behind, behind]

/-- Where none is put in, only the lines of stave options move. -/
theorem moved_expand_of_not_needsOpener {source : List Char}
    (needs : needsOpener (Text.splitLines source) = false) :
    (expand source).lineMap.moved =
      (expand source).lineMap.filter fun entry ↦ entry.kind = .staveOptions := by
  refine List.filter_congr fun entry mem ↦ ?_
  obtain ⟨index, line, rfl⟩ := exists_eq_layoutEntry_of_mem mem
  rw [Bool.eq_iff_iff, isShifted_layoutEntry, shift_of_not_needsOpener needs, decide_eq_true_iff]
  simp [layoutEntry]

end Stave

end Tabstave
