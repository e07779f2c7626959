import Tabstave.Proofs.Line.Padding
import Tabstave.Proofs.Stave.Grammar

/-!
# Expanding once is enough

`Settled` describes the lines that expanding has nothing left to do for, along the walk that places
lines: all content has an opener above it, options have their directive, and what blank lines there
are stand empty in front of preamble that is still to come.

Expanded lines are settled (`settled_emittedLines`), and settled lines are placed as they are
(`placements_of_settled`). Joined to a text and split again they stay settled, because all they can
lose is carriage returns at their ends. So a pass over an expanded text comes to nothing but joining
its lines anew (`expand_of_settled`), and to nothing at all if no line ends in a carriage return
(`text_expand_expand`).
-/

namespace Tabstave.Stave

/-- The lines that expanding leaves as they are, given whether a stave is open. -/
inductive Settled : Bool → List Line → Prop
  | nil (staveOpen : Bool) : Settled staveOpen []
  /-- A blank line is empty, and preamble comes after it. -/
  | blank {rest : List Line} (ahead : opensBefore rest = false) (later : Settled false rest) :
    Settled false ([] :: rest)
  /-- Comments and preamble are kept wherever they stand. -/
  | aside {staveOpen : Bool} {line : Line} {rest : List Line} (stave : line.kind.isStave = false)
    (some_line : line.kind ≠ .blank) (later : Settled staveOpen rest) :
    Settled staveOpen (line :: rest)
  | opener {staveOpen : Bool} {line : Line} {rest : List Line} (kind : line.kind = .staveOpen)
    (later : Settled true rest) : Settled staveOpen (line :: rest)
  | content {line : Line} {rest : List Line} (kind : line.kind = .content)
    (later : Settled true rest) : Settled true (line :: rest)

/-- The placement of a line that stays as it is. -/
def keptPlacement (line : Line) : Placement :=
  ⟨[line], 0, line.kind⟩

/-! ### Settled lines are left as they are -/

theorem place_of_aside (staveOpen : Bool) {line : Line} (rest : List Line)
    (stave : line.kind.isStave = false) (some_line : line.kind ≠ .blank) :
    place staveOpen line rest = (keptPlacement line, staveOpen) := by
  cases kind : line.kind <;> simp_all [place, keptPlacement, LineKind.isStave]

theorem place_of_opener (staveOpen : Bool) {line : Line} (rest : List Line)
    (h : line.kind = .staveOpen) : place staveOpen line rest = (keptPlacement line, true) := by
  simp [place, keptPlacement, h]

theorem place_true_of_content {line : Line} (rest : List Line) (h : line.kind = .content) :
    place true line rest = (keptPlacement line, true) := by
  simp [place, keptPlacement, h]

theorem place_false_of_nil {rest : List Line} (ahead : opensBefore rest = false) :
    place false [] rest = (keptPlacement [], false) := by
  simp [place, keptPlacement, ahead]

theorem placements_of_settled {staveOpen : Bool} {lines : List Line} (h : Settled staveOpen lines) :
    placements staveOpen lines = lines.map keptPlacement := by
  induction h with
  | nil staveOpen => rfl
  | blank ahead later ih => rw [placements_cons, place_false_of_nil ahead, ih, List.map_cons]
  | aside stave some_line later ih =>
    rw [placements_cons, place_of_aside _ _ stave some_line, ih, List.map_cons]
  | opener kind later ih => rw [placements_cons, place_of_opener _ _ kind, ih, List.map_cons]
  | content kind later ih => rw [placements_cons, place_true_of_content _ kind, ih, List.map_cons]

/-- Placements of one line each emit a line for every line. -/
theorem emittedLines_map {g : Line → Placement} {f : Line → Line}
    (h : ∀ line, (g line).emitted = [f line]) (lines : List Line) :
    emittedLines (lines.map g) = lines.map f := by
  induction lines with
  | nil => rfl
  | cons line rest ih =>
    rw [List.map_cons, List.map_cons, emittedLines_cons, h, ih, List.singleton_append]

theorem emittedLines_of_settled {staveOpen : Bool} {lines : List Line}
    (h : Settled staveOpen lines) : emittedLines (placements staveOpen lines) = lines := by
  rw [placements_of_settled h, emittedLines_map (f := id) fun _ ↦ rfl, List.map_id]

theorem lineMapFrom_of_settled {staveOpen : Bool} {lines : List Line}
    (h : Settled staveOpen lines) :
    lineMapFrom 0 0 (placements staveOpen lines) = LineMap.identityFrom 1 lines := by
  rw [placements_of_settled h, lineMapFrom_map fun _ ↦ rfl]
  refine List.ext_getElem? fun index ↦ ?_
  rw [List.getElem?_mapIdx, LineMap.getElem?_identityFrom]
  simp only [keptPlacement, Nat.zero_add, Nat.add_comm 1]

/-! ### Expanded lines are settled -/

/-- With a stave open, every line comes out by itself. -/
theorem emittedLines_placements_true (lines : List Line) :
    emittedLines (placements true lines) = lines.map bodyLine := by
  rw [placements_true, emittedLines_map fun _ ↦ rfl]

theorem settled_map_bodyLine (lines : List Line) : Settled true (lines.map bodyLine) := by
  induction lines with
  | nil => exact .nil true
  | cons line rest ih =>
    have same := kind_bodyLine line
    rw [List.map_cons]
    cases kind : line.kind <;> rw [kind] at same
    case blank => exact .opener same ih
    case staveOpen => exact .opener same ih
    case staveOptions => exact .opener same ih
    case content => exact .content same ih
    all_goals exact .aside (by rw [same]; rfl) (by simp [same, bodyKind]) ih

/-- Preamble that is still to come for a blank line is still to come when the lines below it have
been expanded: no opener is put in front of it. -/
theorem opensBefore_emittedLines {lines : List Line} (h : opensBefore lines = false) :
    opensBefore (emittedLines (placements false lines)) = false := by
  induction lines with
  | nil => cases h
  | cons line rest ih =>
    rw [opensBefore_cons] at h
    rw [placements_cons, emittedLines_cons]
    rcases line.kind.group_cases with
      ⟨stave, preamble, skipped⟩ | ⟨preamble, stave, skipped⟩ | ⟨skipped, stave, preamble⟩
    · simp [skipped, preamble] at h
    · rw [place_of_aside _ _ stave (LineKind.ne_blank_of_isPreamble preamble), keptPlacement,
        List.singleton_append, opensBefore_cons, skipped, preamble]
      rfl
    · rw [skipped, if_pos rfl] at h
      rw [place_false rest stave, h, if_neg (by simp), List.singleton_append, opensBefore_cons,
        kind_headLine, skipped, if_pos rfl, Bool.and_false]
      exact ih h

/-- **Expanded lines are settled.** The induction follows the walk up to the line that opens a
stave; from there on every line is settled by itself. -/
theorem settled_emittedLines (lines : List Line) :
    Settled false (emittedLines (placements false lines)) := by
  induction lines with
  | nil => exact .nil false
  | cons line rest ih =>
    have body := settled_map_bodyLine rest
    have same := kind_bodyLine line
    rw [placements_cons, emittedLines_cons]
    cases stave : line.kind.isStave with
    | true =>
      -- A stave opens here, and only content needs an opener above it.
      rw [place_false_of_stave rest stave, emittedLines_placements_true]
      cases kind : line.kind <;> rw [kind] at stave same
      case staveOpen => exact .opener same body
      case staveOptions => exact .opener same body
      case content => exact .opener Line.kind_staveKeyword (.content same body)
      all_goals cases stave
    | false =>
      by_cases blank : line.kind = .blank
      · rw [blank] at same
        rw [place_false rest stave]
        cases ahead : opensBefore rest with
        | true =>
          have settled : Settled false (bodyLine line :: rest.map bodyLine) := .opener same body
          simpa [blank, emittedLines_placements_true] using settled
        | false =>
          -- The line stays blank, and must find preamble ahead in what the rest has become.
          have settled := Settled.blank (opensBefore_emittedLines ahead) ih
          simpa [blank, headLine] using settled
      · rw [place_of_aside _ _ stave blank]
        exact .aside stave blank ih

/-! ### Settled texts -/

/-- Lines of the same kinds are settled alike, as long as empty lines stay empty. -/
theorem Settled.of_forall₂ {staveOpen : Bool} {lines out : List Line}
    (h : Settled staveOpen lines)
    (same : List.Forall₂ (fun line other : Line ↦ line.kind = other.kind ∧ (other = [] → line = []))
      out lines) : Settled staveOpen out := by
  induction h generalizing out with
  | nil staveOpen =>
    cases same
    exact .nil staveOpen
  | blank ahead later ih =>
    obtain _ | ⟨⟨-, empty⟩, same⟩ := same
    obtain rfl := empty rfl
    refine .blank ?_ (ih same)
    rwa [opensBefore_congr (same.imp fun _ _ both ↦ both.1)]
  | aside stave some_line later ih =>
    obtain _ | ⟨⟨kind, -⟩, same⟩ := same
    exact .aside (kind ▸ stave) (kind ▸ some_line) (ih same)
  | opener kind later ih =>
    obtain _ | ⟨⟨kind', -⟩, same⟩ := same
    exact .opener (kind'.trans kind) (ih same)
  | content kind later ih =>
    obtain _ | ⟨⟨kind', -⟩, same⟩ := same
    exact .content (kind'.trans kind) (ih same)

/-- Settled lines are settled when they have been joined and split again. -/
theorem Settled.splitLines_joinLines {staveOpen : Bool} {lines : List Line}
    (h : Settled staveOpen lines) (some_line : lines ≠ []) (feed : ∀ line ∈ lines, '\n' ∉ line) :
    Settled staveOpen (Text.splitLines (Text.joinLines lines)) := by
  refine h.of_forall₂ ((Text.forall₂_splitLines_joinLines some_line feed).imp ?_)
  rintro out line (rfl | rfl)
  · exact ⟨rfl, id⟩
  · refine ⟨Line.kind_dropReturn line, ?_⟩
    rintro rfl
    rfl

theorem settled_splitLines_expand (source : List Char) :
    Settled false (Text.splitLines (expand source).text) := by
  have settled := settled_emittedLines (Text.splitLines source)
  rw [emittedLines_placements] at settled
  show Settled false (Text.splitLines (Text.joinLines (emittedLines (placements false _))))
  rw [emittedLines_placements]
  exact settled.splitLines_joinLines (layout_ne_nil (Text.splitLines_ne_nil source))
    (feed_notMem_of_mem_layout Text.feed_notMem_of_mem_splitLines)

/-- **Of a settled text expanding only joins the lines anew**, and every line stays where it is. -/
theorem expand_of_settled {text : List Char} (h : Settled false (Text.splitLines text)) :
    expand text = ⟨Text.rejoin text, LineMap.identityFrom 1 (Text.splitLines text), true⟩ := by
  simp only [expand, emittedLines_of_settled h, lineMapFrom_of_settled h, Text.rejoin]

/-! ### Texts without carriage returns at the ends of lines -/

/-- What expanding writes does not end in a carriage return, so a line ends in one only if its
source line does. -/
theorem getLast?_bodyLine {line : Line} (h : (bodyLine line).getLast? = some '\r') :
    line.getLast? = some '\r' := by
  unfold bodyLine at h
  split at h
  · exact absurd h (by decide)
  · rw [List.getLast?_append, List.getLast?_append] at h
    rw [← Text.indentation_append_content line, List.getLast?_append]
    cases last : (Text.content line).getLast? with
    | none => simp [last, staveLead] at h
    | some c => simpa [last] using h
  · exact h

theorem getLast?_layoutLine {lines : List Line} {index : Nat} {line : Line}
    (h : (layoutLine lines index line).getLast? = some '\r') : line.getLast? = some '\r' := by
  unfold layoutLine headLine at h
  split at h
  · split at h
    · cases h
    · exact h
  · exact getLast?_bodyLine h

theorem returnFree_layout {lines : List Line} (free : Text.ReturnFree lines) :
    Text.ReturnFree (layout lines) := by
  refine List.pairwise_iff_getElem.2 fun above below above_lt below_lt less ends ↦ ?_
  rcases getElem?_layout_cases (List.getElem?_eq_getElem above_lt) with
    ⟨index, line, hline, rfl, out⟩ | ⟨-, -, out⟩
  · obtain ⟨inside, rfl⟩ := List.getElem?_eq_some_iff.1 hline
    rw [out] at ends
    -- The layout ends with the last line of the source, so this one is not the last.
    have later : index + 1 < lines.length := by
      have length := length_layout_eq_succ (List.ne_nil_of_length_pos (Nat.zero_lt_of_lt inside))
      by_contra last
      obtain rfl : index = lines.length - 1 := by omega
      omega
    exact List.pairwise_iff_getElem.1 free index (index + 1) inside later (Nat.lt_succ_self index)
      (getLast?_layoutLine ends)
  · rw [out] at ends
    exact absurd ends (by decide)

/-- Split again, the text of such lines has the very lines of the layout. -/
theorem splitLines_expand {source : List Char} (free : Text.ReturnFree (Text.splitLines source)) :
    Text.splitLines (expand source).text = layout (Text.splitLines source) := by
  show Text.splitLines (Text.joinLines (emittedLines (placements false _))) = _
  rw [emittedLines_placements]
  exact Text.splitLines_joinLines (layout_ne_nil (Text.splitLines_ne_nil source))
    (feed_notMem_of_mem_layout Text.feed_notMem_of_mem_splitLines) (returnFree_layout free)

/-- **Expanding twice is expanding once**, for lines that end in no carriage return. -/
theorem text_expand_expand {source : List Char}
    (free : Text.ReturnFree (Text.splitLines source)) :
    (expand (expand source).text).text = (expand source).text := by
  rw [expand_of_settled (settled_splitLines_expand source), Text.rejoin, splitLines_expand free]
  exact congrArg Text.joinLines (emittedLines_placements (Text.splitLines source)).symm

example : (expand (expand "a\r\r\n".toList).text).text ≠ (expand "a\r\r\n".toList).text := by
  decide

end Tabstave.Stave
