import Tabstave.Proofs.Line.Kind
import Tabstave.Proofs.Lists
import Tabstave.Stave.Expansion

/-!
# What looking ahead finds

Two positions divide the lines of a source. `staveStart` is where the stave material begins, and
`preambleEnd` is where the preamble in front of it ends; between the two there are blank lines and
comments only, the `gap`.

`opensBefore_eq` is the one fact about looking ahead that the rest of the theory uses: from a blank
line a stave is opened exactly when no preamble is left in front of the stave material below it.
So what a blank line looks for is whether it stands before or after `preambleEnd`.
-/

namespace Tabstave.Stave

/-! ### Looking ahead by kinds -/

/-- The first line that is not passed over decides. -/
theorem opensBefore_cons (line : Line) (rest : List Line) :
    opensBefore (line :: rest) =
      if line.kind.isSkipped then opensBefore rest else !line.kind.isPreamble := by
  rw [opensBefore, ← Line.isSkipped_kind]
  cases skipped : line.kind.isSkipped with
  | true => rfl
  | false => rw [Line.isPreamble_kind skipped]

/-- Looking ahead sees kinds only. -/
theorem opensBefore_congr {first second : List Line}
    (h : List.Forall₂ (fun line other : Line ↦ line.kind = other.kind) first second) :
    opensBefore first = opensBefore second := by
  induction h with
  | nil => rfl
  | cons same _ ih => rw [opensBefore_cons, opensBefore_cons, same, ih]

/-! ### The two positions -/

/-- The index of the first line of stave material, or the number of lines if there is none. -/
def staveStart (lines : List Line) : Nat :=
  lines.findIdx fun line ↦ line.kind.isStave

/-- One past the index of the last line of preamble in front of the stave material, or zero if there
is none. -/
def preambleEnd (lines : List Line) : Nat :=
  ((lines.take (staveStart lines)).rdropWhile fun line ↦ !line.kind.isPreamble).length

/-- The lines between the preamble and the stave material. -/
def gap (lines : List Line) : List Line :=
  (lines.take (staveStart lines)).drop (preambleEnd lines)

theorem staveStart_cons_of_stave {line : Line} (rest : List Line) (h : line.kind.isStave = true) :
    staveStart (line :: rest) = 0 := by
  simp [staveStart, List.findIdx_cons, h]

theorem staveStart_cons {line : Line} (rest : List Line) (h : line.kind.isStave = false) :
    staveStart (line :: rest) = staveStart rest + 1 := by
  simp [staveStart, List.findIdx_cons, h]

theorem preambleEnd_cons_of_stave {line : Line} (rest : List Line)
    (h : line.kind.isStave = true) : preambleEnd (line :: rest) = 0 := by
  simp [preambleEnd, staveStart_cons_of_stave rest h]

/-- Preamble further down takes the line in; without it the line itself has to be preamble. -/
theorem preambleEnd_cons {line : Line} (rest : List Line) (h : line.kind.isStave = false) :
    preambleEnd (line :: rest) =
      if preambleEnd rest = 0 then (if line.kind.isPreamble then 1 else 0)
      else preambleEnd rest + 1 := by
  rw [preambleEnd, staveStart_cons rest h, List.take_succ_cons, List.rdropWhile_cons]
  by_cases none : (rest.take (staveStart rest)).rdropWhile (fun line ↦ !line.kind.isPreamble) = []
  · cases line.kind.isPreamble <;> simp [preambleEnd, none]
  · simp [preambleEnd, none]

theorem gap_cons_of_stave {line : Line} (rest : List Line) (h : line.kind.isStave = true) :
    gap (line :: rest) = [] := by
  rw [gap, staveStart_cons_of_stave rest h, List.take_zero, List.drop_nil]

/-- The gap takes in what is not preamble until there is preamble further down. -/
theorem gap_cons {line : Line} (rest : List Line) (h : line.kind.isStave = false) :
    gap (line :: rest) =
      if preambleEnd rest = 0 ∧ line.kind.isPreamble = false then line :: gap rest
      else gap rest := by
  rw [gap, staveStart_cons rest h, preambleEnd_cons rest h, List.take_succ_cons]
  by_cases none : preambleEnd rest = 0
  · cases preamble : line.kind.isPreamble <;> simp [gap, none]
  · simp [gap, none]

/-- Whether looking ahead opens a stave is a matter of the position alone. -/
theorem opensBefore_eq (lines : List Line) : opensBefore lines = (preambleEnd lines == 0) := by
  induction lines with
  | nil => rfl
  | cons line rest ih =>
    rw [opensBefore_cons]
    rcases line.kind.group_cases with
      ⟨stave, preamble, skipped⟩ | ⟨preamble, stave, skipped⟩ | ⟨skipped, stave, preamble⟩
    · rw [preambleEnd_cons_of_stave rest stave, skipped, preamble]
      rfl
    · rw [preambleEnd_cons rest stave, skipped, preamble]
      by_cases none : preambleEnd rest = 0 <;> simp [none]
    · rw [preambleEnd_cons rest stave, skipped, preamble, ih]
      by_cases none : preambleEnd rest = 0 <;> simp [none]

/-! ### What stands where -/

theorem preambleEnd_le_staveStart (lines : List Line) : preambleEnd lines ≤ staveStart lines :=
  ((List.rdropWhile_prefix _ _).length_le).trans (List.length_take_le _ _)

theorem staveStart_le_length (lines : List Line) : staveStart lines ≤ lines.length :=
  List.findIdx_le_length

theorem isStave_of_lt_staveStart {lines : List Line} {index : Nat} {line : Line}
    (hline : lines[index]? = some line) (h : index < staveStart lines) :
    line.kind.isStave = false := by
  obtain ⟨inside, rfl⟩ := List.getElem?_eq_some_iff.1 hline
  simpa using List.not_of_lt_findIdx h

theorem isStave_of_lt_preambleEnd {lines : List Line} {index : Nat} {line : Line}
    (hline : lines[index]? = some line) (h : index < preambleEnd lines) :
    line.kind.isStave = false :=
  isStave_of_lt_staveStart hline (h.trans_le (preambleEnd_le_staveStart lines))

theorem isStave_staveStart {lines : List Line} {line : Line}
    (hline : lines[staveStart lines]? = some line) : line.kind.isStave = true := by
  obtain ⟨inside, rfl⟩ := List.getElem?_eq_some_iff.1 hline
  exact List.findIdx_getElem (w := inside)

theorem mem_gap {lines : List Line} {index : Nat} {line : Line} (hline : lines[index]? = some line)
    (low : preambleEnd lines ≤ index) (high : index < staveStart lines) : line ∈ gap lines := by
  refine List.mem_of_getElem? (i := index - preambleEnd lines) ?_
  rw [gap, List.getElem?_drop, List.getElem?_take_of_lt (by omega), Nat.add_sub_cancel' low, hline]

theorem exists_getElem?_of_mem_gap {lines : List Line} {line : Line} (h : line ∈ gap lines) :
    ∃ index, preambleEnd lines ≤ index ∧ index < staveStart lines ∧ lines[index]? = some line := by
  obtain ⟨position, found⟩ := List.mem_iff_getElem?.1 h
  rw [gap, List.getElem?_drop] at found
  have inside : preambleEnd lines + position < staveStart lines := by
    by_contra beyond
    rw [List.getElem?_take_eq_none (by omega)] at found
    cases found
  rw [List.getElem?_take_of_lt inside] at found
  exact ⟨_, Nat.le_add_right _ _, inside, found⟩

/-- In the gap there are blank lines and comments only. -/
theorem isSkipped_of_mem_gap {lines : List Line} {line : Line} (h : line ∈ gap lines) :
    line.kind.isSkipped = true := by
  induction lines with
  | nil => exact absurd h (by simp [gap])
  | cons first rest ih =>
    rcases first.kind.group_cases with ⟨stave, -⟩ | ⟨preamble, stave, -⟩ | ⟨skipped, stave, -⟩
    · rw [gap_cons_of_stave rest stave] at h
      cases h
    · rw [gap_cons rest stave, if_neg (by simp [preamble])] at h
      exact ih h
    · rw [gap_cons rest stave] at h
      split at h
      · rcases List.mem_cons.1 h with rfl | later
        · exact skipped
        · exact ih later
      · exact ih h

/-- The line right before the end of the preamble is preamble. -/
theorem isPreamble_of_succ_eq_preambleEnd {lines : List Line} {index : Nat} {line : Line}
    (hline : lines[index]? = some line) (h : index + 1 = preambleEnd lines) :
    line.kind.isPreamble = true := by
  induction lines generalizing index with
  | nil => cases hline
  | cons first rest ih =>
    cases stave : first.kind.isStave with
    | true =>
      rw [preambleEnd_cons_of_stave rest stave] at h
      cases h
    | false =>
      rw [preambleEnd_cons rest stave] at h
      split at h
      · split at h
        · obtain rfl : index = 0 := by omega
          obtain rfl : first = line := by simpa using hline
          assumption
        · cases h
      · obtain ⟨before, rfl⟩ : ∃ before, index = before + 1 := ⟨index - 1, by omega⟩
        exact ih (by simpa using hline) (by omega)

/-- Preamble stands in front of the gap or behind the first stave material. -/
theorem lt_preambleEnd_or_staveStart_lt {lines : List Line} {index : Nat} {line : Line}
    (hline : lines[index]? = some line) (preamble : line.kind.isPreamble = true) :
    index < preambleEnd lines ∨ staveStart lines < index := by
  by_contra neither
  rw [not_or, Nat.not_lt, Nat.not_lt] at neither
  rcases Nat.lt_or_eq_of_le neither.2 with high | rfl
  · have skipped := isSkipped_of_mem_gap (mem_gap hline neither.1 high)
    cases kind : line.kind <;> simp_all [LineKind.isPreamble, LineKind.isSkipped]
  · rw [LineKind.isPreamble_eq_false_of_isStave (isStave_staveStart hline)] at preamble
    cases preamble

end Tabstave.Stave
