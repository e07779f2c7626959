import Tabstave.Proofs.Stave.Lookahead
import Tabstave.Stave.Expansion

/-!
# The layout of an expanded source

Expanding walks once over the lines, with a flag for an open stave and a look ahead from each blank
line. The layout says what comes out without either: up to the end of the preamble blank lines stay
empty, from there on every blank line opens a stave and every line of options gets its directive,
and an opener of its own is put in front of the stave material where nothing else opens a stave for
it.

`placements_false` is the invariant that ties the two together, by induction on the lines: a walk
with no open stave treats a line as the layout of what is left does. Once a stave is open
(`placements_true`), no line depends on another.
-/

namespace Tabstave.Stave

/-! ### The two phases -/

/-- What a line becomes while preamble is still to come. -/
def headLine (line : Line) : Line :=
  if line.kind = .blank then [] else line

/-- What a line becomes after the preamble. -/
def bodyLine (line : Line) : Line :=
  match line.kind with
  | .blank => staveKeyword
  | .staveOptions => Text.indentation line ++ (staveLead ++ Text.content line)
  | _ => line

/-- What the line at an index becomes, among the lines of its source. -/
def layoutLine (lines : List Line) (index : Nat) (line : Line) : Line :=
  if index < preambleEnd lines then headLine line else bodyLine line

/-- Whether the stave material needs an opener of its own: it starts with content, and there is no
blank line in the gap to open a stave for it. -/
def needsOpener (lines : List Line) : Bool :=
  lines[staveStart lines]?.any (fun line ↦ line.kind = .content) &&
    (gap lines).all fun line ↦ line.kind ≠ .blank

/-- The lines of the expanded text. -/
def layout (lines : List Line) : List Line :=
  if needsOpener lines then
    (lines.mapIdx (layoutLine lines)).insertIdx (staveStart lines) staveKeyword
  else lines.mapIdx (layoutLine lines)

/-- How far the content of a line moves to the right. -/
def columnOffset : LineKind → Nat
  | .staveOptions => staveLead.length
  | _ => 0

/-- The placement of a line in an open stave. -/
def openPlacement (line : Line) : Placement :=
  ⟨[bodyLine line], columnOffset line.kind, line.kind⟩

/-- The placement of the line at an index, among the lines of its source. -/
def layoutPlacement (lines : List Line) (index : Nat) (line : Line) : Placement :=
  ⟨(if needsOpener lines ∧ index = staveStart lines then [staveKeyword] else []) ++
    [layoutLine lines index line], columnOffset line.kind, line.kind⟩

/-! ### One line -/

/-- With a stave open, every line is placed by itself. -/
theorem place_true (line : Line) (rest : List Line) :
    place true line rest = (openPlacement line, true) := by
  cases kind : line.kind <;> simp [place, openPlacement, bodyLine, columnOffset, kind]

/-- Stave material opens a stave, if only by the opener put in front of it. -/
theorem place_false_of_stave {line : Line} (rest : List Line) (h : line.kind.isStave = true) :
    place false line rest =
      (⟨(if line.kind = .content then [staveKeyword] else []) ++ [bodyLine line],
        columnOffset line.kind, line.kind⟩, true) := by
  cases kind : line.kind <;> simp_all [place, bodyLine, columnOffset, LineKind.isStave]

/-- Any other line is treated as one before the end of the preamble or after it, as looking ahead
says, and only a blank line can open a stave. -/
theorem place_false {line : Line} (rest : List Line) (h : line.kind.isStave = false) :
    place false line rest =
      (⟨[if opensBefore rest then bodyLine line else headLine line], columnOffset line.kind,
        line.kind⟩, decide (line.kind = .blank) && opensBefore rest) := by
  cases kind : line.kind <;> cases ahead : opensBefore rest <;>
    simp_all [place, bodyLine, headLine, columnOffset, LineKind.isStave]

/-! ### The layout, line by line -/

theorem headLine_eq_bodyLine {line : Line} (h : line.kind.isPreamble = true) :
    headLine line = bodyLine line := by
  cases kind : line.kind <;> simp_all [headLine, bodyLine, LineKind.isPreamble]

theorem layoutLine_of_lt {lines : List Line} {index : Nat} (h : index < preambleEnd lines)
    (line : Line) : layoutLine lines index line = headLine line :=
  if_pos h

theorem layoutLine_of_le {lines : List Line} {index : Nat} (h : preambleEnd lines ≤ index)
    (line : Line) : layoutLine lines index line = bodyLine line :=
  if_neg (Nat.not_lt_of_le h)

theorem layoutLine_cons {line : Line} (rest : List Line) (h : line.kind.isStave = false)
    (index : Nat) (other : Line) :
    layoutLine (line :: rest) (index + 1) other = layoutLine rest index other := by
  have same : index + 1 < preambleEnd (line :: rest) ↔ index < preambleEnd rest := by
    rw [preambleEnd_cons rest h]
    split
    · split <;> omega
    · omega
  simp only [layoutLine, same]

theorem needsOpener_cons_of_stave {line : Line} (rest : List Line)
    (h : line.kind.isStave = true) : needsOpener (line :: rest) = decide (line.kind = .content) := by
  simp [needsOpener, gap_cons_of_stave rest h, staveStart_cons_of_stave rest h]

/-- A blank line in the gap takes the need away. -/
theorem needsOpener_cons {line : Line} (rest : List Line) (h : line.kind.isStave = false) :
    needsOpener (line :: rest) =
      (needsOpener rest && !decide (line.kind = .blank ∧ preambleEnd rest = 0)) := by
  rw [needsOpener, staveStart_cons rest h, gap_cons rest h, List.getElem?_cons_succ, needsOpener]
  cases kind : line.kind <;> by_cases none : preambleEnd rest = 0 <;>
    simp_all [LineKind.isStave, LineKind.isPreamble]

/-! ### The walk -/

theorem placements_cons (staveOpen : Bool) (line : Line) (rest : List Line) :
    placements staveOpen (line :: rest) =
      (place staveOpen line rest).1 :: placements (place staveOpen line rest).2 rest :=
  rfl

theorem placements_true (lines : List Line) :
    placements true lines = lines.map openPlacement := by
  induction lines with
  | nil => rfl
  | cons line rest ih => rw [placements_cons, place_true, ih, List.map_cons]

/-- The first line is placed where the layout has it. -/
theorem layoutPlacement_zero (line : Line) (rest : List Line) :
    layoutPlacement (line :: rest) 0 line = (place false line rest).1 := by
  cases stave : line.kind.isStave with
  | true =>
    simp [place_false_of_stave rest stave, layoutPlacement, staveStart_cons_of_stave rest stave,
      needsOpener_cons_of_stave rest stave,
      layoutLine_of_le (preambleEnd_cons_of_stave rest stave).le]
  | false =>
    rw [place_false rest stave, opensBefore_eq, layoutPlacement, staveStart_cons rest stave,
      if_neg (by omega), layoutLine, preambleEnd_cons rest stave]
    by_cases none : preambleEnd rest = 0
    · cases preamble : line.kind.isPreamble with
      | true =>
        -- The line that ends the preamble comes out the same on either side of its end.
        simp [none, headLine_eq_bodyLine preamble]
      | false => simp [none]
    · simp [none]

/-- Behind a line that opens no stave, the layout is the layout of the rest. -/
theorem layoutPlacement_succ {line : Line} {rest : List Line} (stave : line.kind.isStave = false)
    (closed : ¬(line.kind = .blank ∧ preambleEnd rest = 0)) :
    (fun index ↦ layoutPlacement (line :: rest) (index + 1)) = layoutPlacement rest := by
  have needs : needsOpener (line :: rest) = needsOpener rest := by
    simp [needsOpener_cons rest stave, closed]
  funext index other
  rw [layoutPlacement, needs, staveStart_cons rest stave, layoutLine_cons rest stave,
    layoutPlacement]
  simp only [Nat.add_right_cancel_iff]

/-- Behind a line that opens a stave, no line depends on another. -/
theorem mapIdx_layoutPlacement {lines : List Line} (rest : List Line)
    (preamble : preambleEnd lines = 0) (opener : needsOpener lines = true → staveStart lines = 0) :
    (rest.mapIdx fun index ↦ layoutPlacement lines (index + 1)) = rest.map openPlacement := by
  have alone : ∀ index line, layoutPlacement lines (index + 1) line = openPlacement line := by
    intro index line
    have behind : ¬(needsOpener lines = true ∧ index + 1 = staveStart lines) := by
      rintro ⟨needs, start⟩
      have := opener needs
      omega
    rw [layoutPlacement, if_neg behind, layoutLine_of_le (preamble.le.trans (Nat.zero_le _))]
    rfl
  rw [List.mapIdx_eq_iff]
  intro index
  rw [List.getElem?_map]
  congr 1
  funext line
  exact (alone index line).symm

/-- **The walk places every line where the layout has it.** The induction is on the lines: up to the
first line that opens a stave the layout of a source goes on as the layout of its rest, and behind
that line `placements_true` takes over. -/
theorem placements_false (lines : List Line) :
    placements false lines = lines.mapIdx (layoutPlacement lines) := by
  induction lines with
  | nil => rfl
  | cons line rest ih =>
    rw [placements_cons, List.mapIdx_cons, layoutPlacement_zero]
    congr 1
    cases stave : line.kind.isStave with
    | true =>
      have preamble := preambleEnd_cons_of_stave rest stave
      have start := staveStart_cons_of_stave rest stave
      rw [mapIdx_layoutPlacement rest preamble fun _ ↦ start, place_false_of_stave rest stave,
        placements_true]
    | false =>
      -- Only a blank line with no preamble left below it opens a stave.
      rw [place_false rest stave, opensBefore_eq]
      by_cases opens : line.kind = .blank ∧ preambleEnd rest = 0
      · have preamble : preambleEnd (line :: rest) = 0 := by
          simp [preambleEnd_cons rest stave, opens.1, opens.2, LineKind.isPreamble]
        have settled : needsOpener (line :: rest) = false := by
          simp [needsOpener_cons rest stave, opens.1, opens.2]
        rw [mapIdx_layoutPlacement rest preamble (by simp [settled])]
        simp [opens, placements_true]
      · have closed : (decide (line.kind = .blank) && preambleEnd rest == 0) = false := by
          simpa using opens
        rw [layoutPlacement_succ stave opens, closed, ih]

/-! ### The emitted lines -/

theorem emittedLines_cons (placement : Placement) (rest : List Placement) :
    emittedLines (placement :: rest) = placement.emitted ++ emittedLines rest :=
  List.flatMap_cons

theorem emittedLines_mapIdx {g : Nat → Line → Placement} {f : Nat → Line → Line}
    (h : ∀ index line, (g index line).emitted = [f index line]) (lines : List Line) :
    emittedLines (lines.mapIdx g) = lines.mapIdx f := by
  induction lines generalizing g f with
  | nil => rfl
  | cons line rest ih =>
    rw [List.mapIdx_cons, List.mapIdx_cons, emittedLines_cons, h, ih fun index ↦ h (index + 1)]
    rfl

/-- One placement with a line in front of it puts that line in at its index. -/
theorem emittedLines_mapIdx_insertIdx {g : Nat → Line → Placement} {f : Nat → Line → Line}
    {opener : Line} {position : Nat} {lines : List Line} (inside : position < lines.length)
    (h : ∀ index line, (g index line).emitted =
      (if index = position then [opener] else []) ++ [f index line]) :
    emittedLines (lines.mapIdx g) = (lines.mapIdx f).insertIdx position opener := by
  induction lines generalizing g f position with
  | nil => exact absurd inside (Nat.not_lt_zero position)
  | cons line rest ih =>
    rw [List.mapIdx_cons, List.mapIdx_cons, emittedLines_cons, h]
    cases position with
    | zero =>
      have tail := emittedLines_mapIdx (g := fun index ↦ g (index + 1))
        (f := fun index ↦ f (index + 1)) (fun index other ↦ by simp [h]) rest
      rw [tail]
      rfl
    | succ position =>
      have tail := ih (g := fun index ↦ g (index + 1)) (f := fun index ↦ f (index + 1))
        (Nat.lt_of_succ_lt_succ inside) (fun index other ↦ by simp [h])
      rw [tail, List.insertIdx_succ_cons]
      rfl

/-- An opener of its own is put in front of content. -/
theorem exists_content_of_needsOpener {lines : List Line} (h : needsOpener lines = true) :
    ∃ line, lines[staveStart lines]? = some line ∧ line.kind = .content := by
  rw [needsOpener, Bool.and_eq_true, Option.any_eq_true] at h
  obtain ⟨line, hline, kind⟩ := h.1
  exact ⟨line, hline, of_decide_eq_true kind⟩

theorem staveStart_lt_of_needsOpener {lines : List Line} (h : needsOpener lines = true) :
    staveStart lines < lines.length := by
  obtain ⟨line, hline, -⟩ := exists_content_of_needsOpener h
  exact (List.getElem?_eq_some_iff.1 hline).1

/-- The lines that the walk emits are those of the layout. -/
theorem emittedLines_placements (lines : List Line) :
    emittedLines (placements false lines) = layout lines := by
  rw [placements_false, layout]
  cases needs : needsOpener lines with
  | true =>
    refine emittedLines_mapIdx_insertIdx (staveStart_lt_of_needsOpener needs) fun index line ↦ ?_
    simp [layoutPlacement, needs]
  | false =>
    refine emittedLines_mapIdx (fun index line ↦ ?_) lines
    simp [layoutPlacement, needs]

/-- **An expanded text is the layout of its source.** The walk with its flag, and with a look ahead
from every blank line, comes to the same as dividing the lines once. -/
theorem text_expand (source : List Char) :
    (expand source).text = Text.joinLines (layout (Text.splitLines source)) :=
  congrArg Text.joinLines (emittedLines_placements (Text.splitLines source))

example : (expand "\ntitle x\n// c\nnotes 1\n".toList).text =
    "\ntitle x\n// c\ntabstave\nnotes 1\ntabstave".toList := by
  decide

end Tabstave.Stave
