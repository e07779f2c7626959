import Tabstave.Proofs.Stave.Shift

/-!
# The line map of an expanded source

The line map is read off the growing list of expanded lines. `lineMapFrom_mapIdx` says what that
amounts to, whatever the placements are: an entry has the number of lines that were there after its
own. With the layout, `lineMap_expand` gives every entry in full, without a run through the lines.

Cursors follow: `locate_expand` carries one over, and as the shift never falls, none overtakes
another on the way (`before_locate_expand`).
-/

namespace Tabstave

/-- A cursor stands before another: on a line further up, or on the same line further left. -/
def Cursor.Before (first second : Cursor) : Prop :=
  first.line < second.line ∨ first.line = second.line ∧ first.column < second.column

namespace LineMap

theorem getElem?_identityFrom (first : Nat) (lines : List Line) (index : Nat) :
    (identityFrom first lines)[index]? =
      lines[index]?.map fun line ↦ ⟨first + index, first + index, 0, line.kind⟩ := by
  induction lines generalizing first index with
  | nil => rfl
  | cons line rest ih =>
    cases index with
    | zero => rfl
    | succ index =>
      rw [identityFrom, List.getElem?_cons_succ, List.getElem?_cons_succ, ih]
      simp only [Nat.add_assoc, Nat.add_comm 1 index]

/-- The map of lines that all stay in place carries no cursor anywhere. -/
theorem locate_identityFrom (lines : List Line) (cursor : Cursor) :
    (identityFrom 1 lines).locate cursor = cursor := by
  by_cases above : cursor.line < 1
  · rw [locate, entry?, if_pos above]
  · rw [locate, entry?, if_neg above, getElem?_identityFrom]
    cases lines[(cursor.line - 1).toNat]? with
    | none => rfl
    | some line =>
      have number : ((1 + (cursor.line - 1).toNat : Nat) : Int) = cursor.line := by omega
      exact congrArg₂ Cursor.mk number (Int.add_zero cursor.column)

end LineMap

namespace Stave

/-! ### The line map of the layout -/

/-- The entry of the line at an index, among the lines of its source. -/
def layoutEntry (lines : List Line) (index : Nat) (line : Line) : LineMap.Entry :=
  ⟨index + 1, index + shift lines index + 1, columnOffset line.kind, line.kind⟩

/-- An entry has the number of lines that are there after its own. -/
theorem lineMapFrom_mapIdx {g : Nat → Line → Placement} {total : Nat → Nat}
    (h : ∀ index line, total (index + 1) = total index + (g index line).emitted.length)
    (source : Nat) (lines : List Line) :
    lineMapFrom source (total 0) (lines.mapIdx g) = lines.mapIdx fun index line ↦
      ⟨source + index + 1, total (index + 1), (g index line).offset, (g index line).kind⟩ := by
  induction lines generalizing source g total with
  | nil => rfl
  | cons line rest ih =>
    -- For the rest of the lines, indices and counts both start one line further down.
    have tail := @ih (fun index ↦ g (index + 1)) (fun index ↦ total (index + 1))
      (fun index ↦ h (index + 1)) (source + 1)
    rw [List.mapIdx_cons, List.mapIdx_cons, lineMapFrom, ← h 0 line, tail]
    simp only [Nat.add_zero, Nat.add_assoc, Nat.add_comm 1]

/-- Placements of one line each are numbered through. -/
theorem lineMapFrom_map {g : Line → Placement} (h : ∀ line, (g line).emitted.length = 1)
    (source expanded : Nat) (lines : List Line) :
    lineMapFrom source expanded (lines.map g) = lines.mapIdx fun index line ↦
      ⟨source + index + 1, expanded + index + 1, (g line).offset, (g line).kind⟩ := by
  induction lines generalizing source expanded with
  | nil => rfl
  | cons line rest ih =>
    rw [List.map_cons, List.mapIdx_cons, lineMapFrom, h, ih]
    simp only [Nat.add_zero, Nat.add_assoc, Nat.add_comm 1]

/-- The number of lines of the layout that stand before the line of the source at an index. -/
def linesBefore (lines : List Line) (index : Nat) : Nat :=
  index + if needsOpener lines ∧ staveStart lines < index then 1 else 0

theorem linesBefore_zero (lines : List Line) : linesBefore lines 0 = 0 := by
  simp [linesBefore]

theorem linesBefore_succ (lines : List Line) (index : Nat) :
    linesBefore lines (index + 1) = index + shift lines index + 1 := by
  simp only [linesBefore, shift, Nat.lt_succ_iff]
  omega

theorem linesBefore_succ_eq_add (lines : List Line) (index : Nat) (line : Line) :
    linesBefore lines (index + 1) =
      linesBefore lines index + (layoutPlacement lines index line).emitted.length := by
  simp only [linesBefore, layoutPlacement, List.length_append, List.length_singleton]
  by_cases needs : needsOpener lines = true
  · rcases Nat.lt_trichotomy index (staveStart lines) with before | rfl | behind
    · rw [if_neg (by omega), if_neg (by omega), if_neg (by omega), List.length_nil]
    · rw [if_pos (by simp [needs]), if_neg (by omega), if_pos (by simp [needs]),
        List.length_singleton]
    · rw [if_pos ⟨needs, by omega⟩, if_pos ⟨needs, behind⟩, if_neg (by omega), List.length_nil]
  · simp [needs]

/-- **The line map in full.** A line moves down by its shift and to the right as its kind says. -/
theorem lineMap_expand (source : List Char) :
    (expand source).lineMap =
      (Text.splitLines source).mapIdx (layoutEntry (Text.splitLines source)) := by
  have entries := lineMapFrom_mapIdx (linesBefore_succ_eq_add (Text.splitLines source)) 0
    (Text.splitLines source)
  rw [linesBefore_zero] at entries
  have same : (fun index line ↦ (⟨0 + index + 1, linesBefore (Text.splitLines source) (index + 1),
      (layoutPlacement (Text.splitLines source) index line).offset,
      (layoutPlacement (Text.splitLines source) index line).kind⟩ : LineMap.Entry)) =
      layoutEntry (Text.splitLines source) := by
    funext index line
    rw [linesBefore_succ, Nat.zero_add]
    rfl
  rw [← same, ← entries, ← placements_false]
  rfl

theorem getElem?_lineMap_expand (source : List Char) (index : Nat) :
    (expand source).lineMap[index]? =
      (Text.splitLines source)[index]?.map (layoutEntry (Text.splitLines source) index) := by
  rw [lineMap_expand, List.getElem?_mapIdx]

/-- An entry is the entry of a line of the source. -/
theorem exists_eq_layoutEntry {source : List Char} {index : Nat} {entry : LineMap.Entry}
    (h : (expand source).lineMap[index]? = some entry) :
    ∃ line, (Text.splitLines source)[index]? = some line ∧
      entry = layoutEntry (Text.splitLines source) index line := by
  rw [getElem?_lineMap_expand, Option.map_eq_some_iff] at h
  obtain ⟨line, hline, rfl⟩ := h
  exact ⟨line, hline, rfl⟩

theorem exists_eq_layoutEntry_of_mem {source : List Char} {entry : LineMap.Entry}
    (h : entry ∈ (expand source).lineMap) :
    ∃ index line, entry = layoutEntry (Text.splitLines source) index line := by
  obtain ⟨index, found⟩ := List.mem_iff_getElem?.1 h
  obtain ⟨line, -, same⟩ := exists_eq_layoutEntry found
  exact ⟨index, line, same⟩

theorem getElem?_lineMap_passThrough (source : List Char) (index : Nat) :
    (passThrough source).lineMap[index]? =
      (Text.splitLines source)[index]?.map fun line ↦ ⟨index + 1, index + 1, 0, line.kind⟩ := by
  simp only [passThrough, LineMap.getElem?_identityFrom, Nat.add_comm 1]

/-! ### The opener of its own -/

/-- Right above the line that carries the line at an index stands a stave opener that carries no
line: it has been put in front of that line. -/
def Expansion.InsertedBefore (expansion : Expansion) (index : Nat) : Prop :=
  ∃ entry position, expansion.lineMap[index]? = some entry ∧ entry.expandedLine = position + 2 ∧
    (Text.splitFeeds expansion.text)[position]? = some staveKeyword ∧
    ∀ other ∈ expansion.lineMap, other.expandedLine ≠ position + 1

/-- An opener is put in where the stave material begins, if it needs one, and nowhere else. -/
theorem insertedBefore_expand_iff (source : List Char) (index : Nat) :
    (expand source).InsertedBefore index ↔
      needsOpener (Text.splitLines source) = true ∧
        index = staveStart (Text.splitLines source) := by
  constructor
  · rintro ⟨entry, position, found, below, opener, alone⟩
    obtain ⟨line, -, rfl⟩ := exists_eq_layoutEntry found
    have below : index + shift (Text.splitLines source) index = position + 1 := by
      simpa [layoutEntry] using below
    rw [splitFeeds_expand] at opener
    rcases exists_of_lt_length_layout (List.getElem?_eq_some_iff.1 opener).1 with
      ⟨carried, inside, rfl⟩ | ⟨needs, rfl⟩
    · -- A line of the source that is carried there has an entry that says so.
      have there : (expand source).lineMap[carried]? = some
          (layoutEntry (Text.splitLines source) carried (Text.splitLines source)[carried]) := by
        rw [getElem?_lineMap_expand, List.getElem?_eq_getElem inside, Option.map_some]
      exact absurd rfl (alone _ (List.mem_of_getElem? there))
    · refine ⟨needs, ?_⟩
      rcases Nat.lt_or_ge index (staveStart (Text.splitLines source)) with above | behind
      · rw [shift_of_lt above] at below
        omega
      · rw [shift_of_le needs behind] at below
        omega
  · rintro ⟨needs, rfl⟩
    obtain ⟨line, hline, -⟩ := exists_content_of_needsOpener needs
    refine ⟨layoutEntry (Text.splitLines source) (staveStart (Text.splitLines source)) line,
      staveStart (Text.splitLines source), ?_, ?_, ?_, ?_⟩
    · rw [getElem?_lineMap_expand, hline, Option.map_some]
    · rw [layoutEntry, shift_of_le needs le_rfl]
    · rw [splitFeeds_expand, getElem?_layout_staveStart needs]
    · intro other mem
      obtain ⟨carried, line, rfl⟩ := exists_eq_layoutEntry_of_mem mem
      show carried + shift (Text.splitLines source) carried + 1 ≠ _
      rcases Nat.lt_or_ge carried (staveStart (Text.splitLines source)) with above | behind
      · rw [shift_of_lt above]
        omega
      · rw [shift_of_le needs behind]
        omega

/-! ### Cursors -/

/-- A cursor on a line of the source moves with the content of that line. -/
theorem locate_expand {source : List Char} {index : Nat} {line : Line}
    (hline : (Text.splitLines source)[index]? = some line) {cursor : Cursor}
    (on : cursor.line = index + 1) :
    (expand source).locate cursor = ⟨index + shift (Text.splitLines source) index + 1,
      cursor.column + columnOffset line.kind⟩ := by
  have entry : (expand source).lineMap.entry? cursor.line =
      some (layoutEntry (Text.splitLines source) index line) := by
    rw [LineMap.entry?, if_neg (by omega), show (cursor.line - 1).toNat = index by omega,
      getElem?_lineMap_expand, hline, Option.map_some]
  show (expand source).lineMap.locate cursor = _
  rw [LineMap.locate, entry]
  simp [layoutEntry]

/-- A cursor above the source stays where it is. -/
theorem locate_expand_of_lt_one (source : List Char) {cursor : Cursor} (h : cursor.line < 1) :
    (expand source).locate cursor = cursor := by
  show (expand source).lineMap.locate cursor = _
  rw [LineMap.locate, LineMap.entry?, if_pos h]

/-- A line counted from one within the source has an index. -/
theorem exists_getElem?_of_le_length {lines : List Line} {number : Int} (low : 1 ≤ number)
    (high : number ≤ lines.length) :
    ∃ (index : Nat) (line : Line), lines[index]? = some line ∧ number = index + 1 :=
  ⟨(number - 1).toNat, _, List.getElem?_eq_getElem (by omega), by omega⟩

/-- Of two lines of the source the upper one stays the upper one, and on one line all columns move
alike. -/
theorem before_locate_expand_of_getElem? {source : List Char} {upper lower : Nat}
    {line other : Line} (hupper : (Text.splitLines source)[upper]? = some line)
    (hlower : (Text.splitLines source)[lower]? = some other) {first second : Cursor}
    (on_upper : first.line = upper + 1) (on_lower : second.line = lower + 1)
    (h : first.Before second) :
    ((expand source).locate first).Before ((expand source).locate second) := by
  rw [locate_expand hupper on_upper, locate_expand hlower on_lower]
  rcases h with up | ⟨same, left⟩
  · have mono := shift_mono (Text.splitLines source) (show upper ≤ lower by omega)
    refine Or.inl ?_
    show (upper + shift (Text.splitLines source) upper + 1 : Int) <
      lower + shift (Text.splitLines source) lower + 1
    omega
  · obtain rfl : upper = lower := by omega
    obtain rfl : line = other := Option.some.inj (hupper.symm.trans hlower)
    refine Or.inr ⟨rfl, ?_⟩
    show first.column + (columnOffset line.kind : Int) < second.column + columnOffset line.kind
    omega

/-- No cursor overtakes another on its way to the expanded text. -/
theorem before_locate_expand (source : List Char) {first second : Cursor}
    (first_le : first.line ≤ (Text.splitLines source).length)
    (second_le : second.line ≤ (Text.splitLines source).length) (h : first.Before second) :
    ((expand source).locate first).Before ((expand source).locate second) := by
  by_cases above : first.line < 1
  · -- Cursors above the source stay, and those within go no further up than the first line.
    rw [locate_expand_of_lt_one source above]
    by_cases both : second.line < 1
    · rwa [locate_expand_of_lt_one source both]
    · obtain ⟨lower, line, hlower, on_lower⟩ := exists_getElem?_of_le_length (by omega) second_le
      rw [locate_expand hlower on_lower]
      refine Or.inl ?_
      show first.line < (lower + shift (Text.splitLines source) lower + 1 : Int)
      omega
  · have below : 1 ≤ second.line := by rcases h with up | ⟨same, -⟩ <;> omega
    obtain ⟨upper, line, hupper, on_upper⟩ := exists_getElem?_of_le_length (by omega) first_le
    obtain ⟨lower, other, hlower, on_lower⟩ := exists_getElem?_of_le_length below second_le
    exact before_locate_expand_of_getElem? hupper hlower on_upper on_lower h

end Stave

end Tabstave
