import Tabstave.Proofs.Stave.Settled

/-!
# Comments make no difference

A comment is kept where it stands. It opens no stave, looking ahead passes over it, and nothing that
expanding writes is a comment. So it is all the same whether comments are deleted before expanding
or after. `emittedLines_withoutComments` says so for the walk that places lines, and
`expand_withoutComments` for texts.
-/

namespace Tabstave.Stave

/-- The lines that are not comments. -/
def withoutComments (lines : List Line) : List Line :=
  lines.filter fun line ↦ line.kind ≠ .comment

theorem withoutComments_cons_of_comment {line : Line} (rest : List Line)
    (h : line.kind = .comment) : withoutComments (line :: rest) = withoutComments rest :=
  List.filter_cons_of_neg (by simp [h])

theorem withoutComments_cons {line : Line} (rest : List Line) (h : line.kind ≠ .comment) :
    withoutComments (line :: rest) = line :: withoutComments rest :=
  List.filter_cons_of_pos (by simp [h])

theorem withoutComments_append (lines rest : List Line) :
    withoutComments (lines ++ rest) = withoutComments lines ++ withoutComments rest :=
  List.filter_append lines rest

/-! ### One line -/

/-- Looking ahead does not see comments. -/
theorem opensBefore_withoutComments (lines : List Line) :
    opensBefore (withoutComments lines) = opensBefore lines := by
  induction lines with
  | nil => rfl
  | cons line rest ih =>
    by_cases comment : line.kind = .comment
    · rw [withoutComments_cons_of_comment rest comment, opensBefore_cons line rest, comment, ih]
      rfl
    · rw [withoutComments_cons rest comment, opensBefore_cons, opensBefore_cons, ih]

theorem place_withoutComments (staveOpen : Bool) (line : Line) (rest : List Line) :
    place staveOpen line (withoutComments rest) = place staveOpen line rest := by
  simp only [place, opensBefore_withoutComments]

/-- What a line becomes is an opener, or the line as it is treated before or after the end of the
preamble. -/
theorem mem_emitted_cases {staveOpen : Bool} {line out : Line} {rest : List Line}
    (h : out ∈ (place staveOpen line rest).1.emitted) :
    out = staveKeyword ∨ out = headLine line ∨ out = bodyLine line := by
  cases staveOpen with
  | true =>
    rw [place_true] at h
    exact Or.inr (Or.inr (List.mem_singleton.1 h))
  | false =>
    cases stave : line.kind.isStave with
    | true =>
      rw [place_false_of_stave rest stave] at h
      rcases List.mem_append.1 h with opener | body
      · split at opener
        · exact Or.inl (List.mem_singleton.1 opener)
        · cases opener
      · exact Or.inr (Or.inr (List.mem_singleton.1 body))
    | false =>
      rw [place_false rest stave] at h
      obtain rfl := List.mem_singleton.1 h
      split
      · exact Or.inr (Or.inr rfl)
      · exact Or.inr (Or.inl rfl)

/-- Only a comment comes out as a comment. -/
theorem withoutComments_emitted (staveOpen : Bool) {line : Line} (rest : List Line)
    (h : line.kind ≠ .comment) :
    withoutComments (place staveOpen line rest).1.emitted =
      (place staveOpen line rest).1.emitted := by
  refine List.filter_eq_self.2 fun out mem ↦ decide_eq_true ?_
  rcases mem_emitted_cases mem with rfl | rfl | rfl
  · simp
  · rwa [kind_headLine]
  · rw [kind_bodyLine]
    cases kind : line.kind <;> simp_all [bodyKind]

/-! ### All lines -/

/-- **Deleting comments and expanding commute.** By induction along the walk: a comment changes
nothing for the lines around it, and any other line is placed alike with comments below it and
without. -/
theorem emittedLines_withoutComments (staveOpen : Bool) (lines : List Line) :
    emittedLines (placements staveOpen (withoutComments lines)) =
      withoutComments (emittedLines (placements staveOpen lines)) := by
  induction lines generalizing staveOpen with
  | nil => rfl
  | cons line rest ih =>
    rw [placements_cons staveOpen line rest, emittedLines_cons, withoutComments_append]
    by_cases comment : line.kind = .comment
    -- A comment hands on whether a stave is open, so both walks go on alike.
    · rw [withoutComments_cons_of_comment rest comment,
        place_of_aside staveOpen rest (by rw [comment]; rfl) (by rw [comment]; decide),
        keptPlacement, withoutComments_cons_of_comment [] comment, ih]
      rfl
    · rw [withoutComments_cons rest comment, placements_cons, emittedLines_cons,
        place_withoutComments, withoutComments_emitted staveOpen rest comment, ih]

theorem layout_withoutComments (lines : List Line) :
    layout (withoutComments lines) = withoutComments (layout lines) := by
  rw [← emittedLines_placements, ← emittedLines_placements, emittedLines_withoutComments]

/-- A source and its lines without comments expand to the same lines but for comments, and so do any
two sources that differ in comments only: no comment has a say in which staves are opened, and
where. -/
theorem expand_withoutComments {source : List Char} (plain : ¬['\r', '\r', '\n'] <:+: source)
    (some_line : ∃ line ∈ Text.splitLines source, line.kind ≠ .comment) :
    Text.splitFeeds (expand (Text.joinLines (withoutComments (Text.splitLines source)))).text =
        withoutComments (Text.splitFeeds (expand source).text) ∧
      ∀ other : List Char,
        withoutComments (Text.splitLines other) = withoutComments (Text.splitLines source) →
        withoutComments (Text.splitFeeds (expand other).text) =
          withoutComments (Text.splitFeeds (expand source).text) := by
  obtain ⟨line, mem, kind⟩ := some_line
  have kept : withoutComments (Text.splitLines source) ≠ [] :=
    List.ne_nil_of_mem (List.mem_filter.2 ⟨mem, decide_eq_true kind⟩)
  have feed : ∀ line ∈ withoutComments (Text.splitLines source), '\n' ∉ line := fun line mem ↦
    Text.feed_notMem_of_mem_splitLines line (List.mem_of_mem_filter mem)
  have free : Text.ReturnFree (withoutComments (Text.splitLines source)) :=
    (Text.returnFree_splitLines plain).filter _
  refine ⟨?_, fun other same ↦ ?_⟩
  · rw [splitFeeds_expand, splitFeeds_expand, Text.splitLines_joinLines kept feed free,
      layout_withoutComments]
  · rw [splitFeeds_expand, splitFeeds_expand, ← layout_withoutComments, same,
      layout_withoutComments]

/-- Comments in front of preamble, between blank lines and in front of the first notes. -/
theorem expand_withoutComments_notes :
    ¬['\r', '\r', '\n'] <:+: "# a\n\n// b\ntitle x\n\n# c\n\nnotes 1".toList ∧
      (∃ line ∈ Text.splitLines "# a\n\n// b\ntitle x\n\n# c\n\nnotes 1".toList,
        line.kind ≠ .comment) ∧
      Text.splitFeeds (expand (Text.joinLines (withoutComments
        (Text.splitLines "# a\n\n// b\ntitle x\n\n# c\n\nnotes 1".toList)))).text =
        [[], "title x".toList, staveKeyword, staveKeyword, "notes 1".toList] := by
  have plain : ¬['\r', '\r', '\n'] <:+: "# a\n\n// b\ntitle x\n\n# c\n\nnotes 1".toList :=
    fun inside ↦ absurd (inside.subset List.mem_cons_self) (by decide)
  have some_line : ∃ line ∈ Text.splitLines "# a\n\n// b\ntitle x\n\n# c\n\nnotes 1".toList,
      line.kind ≠ .comment := ⟨[], by decide, by decide⟩
  exact ⟨plain, some_line, (expand_withoutComments plain some_line).1.trans (by decide)⟩

end Tabstave.Stave
