import Tabstave.Proofs.Stave.Settled

/-!
# Writing on

Looking ahead knows no bound, but it ends at the stave material. So once a source has some, what is
written below it changes nothing above (`placements_append`): every blank line has found what it
looks for, a stave is open at the end of the source, and each further line is expanded by itself.

`expand_append_feed` says so for texts: the expanded text goes on with the expanded lines, the line
map with one entry for each of them, and cursors that stand in the source stay where they were.
-/

namespace Tabstave.Stave

/-! ### Lines below stave material -/

/-- Looking ahead does not see beyond stave material. -/
theorem opensBefore_append {lines : List Line} (h : ∃ line ∈ lines, line.kind.isStave = true)
    (more : List Line) : opensBefore (lines ++ more) = opensBefore lines := by
  induction lines with
  | nil => obtain ⟨line, mem, -⟩ := h; cases mem
  | cons line rest ih =>
    rw [List.cons_append, opensBefore_cons, opensBefore_cons]
    cases skipped : line.kind.isSkipped with
    | true =>
      -- What looking ahead passes over is no stave material.
      have later : ∃ line ∈ rest, line.kind.isStave = true := by
        obtain ⟨stave, mem, material⟩ := h
        rcases List.mem_cons.1 mem with rfl | later
        · cases kind : stave.kind <;> simp_all [LineKind.isStave, LineKind.isSkipped]
        · exact ⟨stave, later, material⟩
      rw [if_pos rfl, if_pos rfl, ih later]
    | false => rfl

/-- A line is placed alike, and afterwards a stave is open or stave material still to come, if that
was so before. -/
theorem place_append {staveOpen : Bool} {line : Line} {rest : List Line}
    (h : staveOpen = true ∨ ∃ other ∈ line :: rest, other.kind.isStave = true) (more : List Line) :
    place staveOpen line (rest ++ more) = place staveOpen line rest ∧
      ((place staveOpen line rest).2 = true ∨ ∃ other ∈ rest, other.kind.isStave = true) := by
  cases staveOpen with
  | true => exact ⟨by rw [place_true, place_true], Or.inl (by rw [place_true])⟩
  | false =>
    cases stave : line.kind.isStave with
    | true =>
      exact ⟨by rw [place_false_of_stave _ stave, place_false_of_stave _ stave],
        Or.inl (by rw [place_false_of_stave _ stave])⟩
    | false =>
      -- This line is not the stave material that is promised, so it stands below.
      obtain ⟨other, mem, material⟩ := h.resolve_left Bool.false_ne_true
      have later : other ∈ rest := by
        rcases List.mem_cons.1 mem with rfl | later
        · rw [stave] at material
          cases material
        · exact later
      have below : ∃ other ∈ rest, other.kind.isStave = true := ⟨other, later, material⟩
      exact ⟨by rw [place_false _ stave, place_false _ stave, opensBefore_append below],
        Or.inr below⟩

/-- **Below stave material lines are placed by themselves**, and above it as if they were not there.
-/
theorem placements_append {staveOpen : Bool} {lines : List Line}
    (h : staveOpen = true ∨ ∃ line ∈ lines, line.kind.isStave = true) (more : List Line) :
    placements staveOpen (lines ++ more) =
      placements staveOpen lines ++ more.map openPlacement := by
  induction lines generalizing staveOpen with
  | nil =>
    -- No line is left that could open a stave, so one is open by now.
    have opened : staveOpen = true := h.resolve_right fun ⟨line, mem, _⟩ ↦ by cases mem
    rw [opened, List.nil_append, placements_true]
    rfl
  | cons line rest ih =>
    obtain ⟨same, next⟩ := place_append h more
    rw [List.cons_append, placements_cons, placements_cons, same, ih next, List.cons_append]

/-! ### Their lines and their entries -/

/-- The entries of lines that are expanded by themselves, below so many lines of the source and so
many expanded ones. -/
def entriesBelow (source expanded : Nat) (lines : List Line) : LineMap :=
  lines.mapIdx fun index line ↦
    ⟨source + index + 1, expanded + index + 1, columnOffset line.kind, line.kind⟩

theorem lineMapFrom_map_openPlacement (source expanded : Nat) (lines : List Line) :
    lineMapFrom source expanded (lines.map openPlacement) = entriesBelow source expanded lines :=
  lineMapFrom_map (fun _ ↦ rfl) source expanded lines

theorem emittedLines_append (placed more : List Placement) :
    emittedLines (placed ++ more) = emittedLines placed ++ emittedLines more :=
  List.flatMap_append

theorem lineMapFrom_append (source expanded : Nat) (placed more : List Placement) :
    lineMapFrom source expanded (placed ++ more) =
      lineMapFrom source expanded placed ++
        lineMapFrom (source + placed.length) (expanded + (emittedLines placed).length) more := by
  induction placed generalizing source expanded with
  | nil => rfl
  | cons placement rest ih =>
    rw [List.cons_append, lineMapFrom, lineMapFrom, ih, emittedLines_cons, List.length_append,
      List.length_cons, List.cons_append, Nat.add_assoc source, Nat.add_comm 1, Nat.add_assoc]

theorem length_emittedLines_placements (source : List Char) :
    (emittedLines (placements false (Text.splitLines source))).length =
      (expand source).lineCount := by
  rw [emittedLines_placements, ← splitFeeds_expand]
  rfl

/-- A cursor on a line that has an entry is carried over alike by a longer map. -/
theorem locate_append {map : LineMap} {cursor : Cursor} (h : cursor.line ≤ map.length)
    (more : LineMap) : LineMap.locate (map ++ more) cursor = map.locate cursor := by
  have entry : LineMap.entry? (map ++ more) cursor.line = map.entry? cursor.line := by
    rw [LineMap.entry?, LineMap.entry?]
    split
    · rfl
    · exact List.getElem?_append_left (by omega)
  rw [LineMap.locate, LineMap.locate, entry]

/-! ### Texts -/

/-- What is written below stave material leaves the expanded text, the line map and the cursors
above it as they were, and each of its lines is expanded by itself. -/
theorem expand_append_feed {source : List Char} (ends : source.getLast? ≠ some '\r')
    (stave : ∃ line ∈ Text.splitLines source, line.kind.isStave = true) (more : List Char) :
    (expand (source ++ '\n' :: more)).text =
        (expand source).text ++ '\n' :: Text.joinLines ((Text.splitLines more).map bodyLine) ∧
      (expand (source ++ '\n' :: more)).lineMap = (expand source).lineMap ++
        entriesBelow (Text.splitLines source).length (expand source).lineCount
          (Text.splitLines more) ∧
      ∀ cursor : Cursor, cursor.line ≤ (Text.splitLines source).length →
        (expand (source ++ '\n' :: more)).locate cursor = (expand source).locate cursor := by
  have placed : placements false (Text.splitLines (source ++ '\n' :: more)) =
      placements false (Text.splitLines source) ++ (Text.splitLines more).map openPlacement := by
    rw [Text.splitLines_append_feed ends, placements_append (Or.inr stave)]
  have map : (expand (source ++ '\n' :: more)).lineMap = (expand source).lineMap ++
      entriesBelow (Text.splitLines source).length (expand source).lineCount
        (Text.splitLines more) := by
    show lineMapFrom 0 0 (placements false _) = lineMapFrom 0 0 (placements false _) ++ _
    rw [placed, lineMapFrom_append, lineMapFrom_map_openPlacement, length_emittedLines_placements,
      length_placements, Nat.zero_add, Nat.zero_add]
  refine ⟨?_, map, fun cursor within ↦ ?_⟩
  · have some_line : emittedLines (placements false (Text.splitLines source)) ≠ [] := by
      rw [emittedLines_placements]
      exact layout_ne_nil (Text.splitLines_ne_nil source)
    have some_more : (Text.splitLines more).map bodyLine ≠ [] := fun none ↦
      Text.splitLines_ne_nil more (List.map_eq_nil_iff.1 none)
    show Text.joinLines (emittedLines (placements false _)) =
      Text.joinLines (emittedLines (placements false _)) ++ _
    rw [placed, emittedLines_append, emittedLines_map fun _ ↦ rfl,
      Text.joinLines_append some_line some_more]
  · show LineMap.locate _ cursor = LineMap.locate _ cursor
    rw [map, locate_append]
    rwa [lineMap_expand, List.length_mapIdx]

/-- Preamble below the first notes does not keep the blank line above them from opening a stave. -/
theorem expand_append_feed_preamble :
    "\nnotes 1".toList.getLast? ≠ some '\r' ∧
      (∃ line ∈ Text.splitLines "\nnotes 1".toList, line.kind.isStave = true) ∧
      (expand "\nnotes 1\n\na=1\r\ntitle x".toList).text =
        "tabstave\nnotes 1\ntabstave\ntabstave a=1\ntitle x".toList := by
  have ends : "\nnotes 1".toList.getLast? ≠ some '\r' := by decide
  have stave : ∃ line ∈ Text.splitLines "\nnotes 1".toList, line.kind.isStave = true :=
    ⟨"notes 1".toList, by decide, by decide⟩
  exact ⟨ends, stave, (expand_append_feed ends stave "\na=1\r\ntitle x".toList).1.trans (by decide)⟩

end Tabstave.Stave
