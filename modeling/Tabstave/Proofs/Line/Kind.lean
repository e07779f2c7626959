import Tabstave.Line.Kind

/-!
# Preamble, stave material and content

For staves only three groups of kinds count: preamble, which stays in front of every stave, stave
material, and the blank lines and comments that belong to neither. `isSkipped_kind` and
`isPreamble_kind` say that the tests on the text of a line, which looking ahead is made of, agree
with these groups.

`kind_congr` says that the kind is a matter of the content alone, and `kind_pad_staveKeyword` that a
line with the stave directive opens a stave whatever its indentation.
-/

namespace Tabstave

namespace LineKind

/-- Preamble: what describes the document, and the options that hold for all of it. -/
def isPreamble : LineKind → Bool
  | .documentHeader | .globalOptions => true
  | _ => false

/-- Stave material: what opens a stave, and what stands in one. -/
def isStave : LineKind → Bool
  | .staveOpen | .staveOptions | .content => true
  | _ => false

/-- What belongs to neither: blank lines and comments. -/
def isSkipped : LineKind → Bool
  | .blank | .comment => true
  | _ => false

/-- Every kind belongs to one of the three groups. -/
theorem group_cases (kind : LineKind) :
    (kind.isStave = true ∧ kind.isPreamble = false ∧ kind.isSkipped = false) ∨
      (kind.isPreamble = true ∧ kind.isStave = false ∧ kind.isSkipped = false) ∨
      (kind.isSkipped = true ∧ kind.isStave = false ∧ kind.isPreamble = false) := by
  cases kind <;> simp [isStave, isPreamble, isSkipped]

theorem isPreamble_eq_false_of_isStave {kind : LineKind} (h : kind.isStave = true) :
    kind.isPreamble = false := by
  cases kind <;> simp_all [isStave, isPreamble]

theorem ne_blank_of_isPreamble {kind : LineKind} (h : kind.isPreamble = true) : kind ≠ .blank := by
  rintro rfl
  cases h

end LineKind

namespace Line

/-! ### The groups, read off the text -/

theorem kind_eq_blank_iff (line : Line) : kind line = .blank ↔ isBlankLine line = true := by
  cases blank : isBlankLine line with
  | true => simp [kind, blank]
  | false =>
    simp only [kind, blank, Bool.false_eq_true, if_false, iff_false]
    repeat' split
    all_goals simp

@[simp] theorem kind_nil : kind [] = .blank :=
  rfl

/-- The lines that looking ahead passes over are the blank lines and the comments. -/
theorem isSkipped_kind (line : Line) :
    (kind line).isSkipped = (isBlankLine line || isComment (Text.content line)) := by
  cases blank : isBlankLine line with
  | true => simp [kind, blank, LineKind.isSkipped]
  | false =>
    cases comment : isComment (Text.content line) with
    | true => simp [kind, blank, comment, LineKind.isSkipped]
    | false =>
      -- None of the tests that are left finds a kind to be passed over.
      simp only [kind, blank, comment, Bool.false_eq_true, if_false, Bool.or_self]
      repeat' split
      all_goals rfl

/-- On all other lines the test for preamble is the test of the kind. -/
theorem isPreamble_kind {line : Line} (h : (kind line).isSkipped = false) :
    (kind line).isPreamble = isPreamble (Text.content line) := by
  rw [isSkipped_kind] at h
  obtain ⟨blank, comment⟩ := Bool.or_eq_false_iff.1 h
  simp only [kind, blank, comment, isPreamble]
  cases header : isDocumentHeader (Text.content line) with
  | true => simp [LineKind.isPreamble]
  | false =>
    cases options : isGlobalOptions (Text.content line) with
    | true => simp [LineKind.isPreamble]
    | false =>
      cases isStaveOpen (Text.content line) <;> cases isStaveOptions (Text.content line) <;>
        simp [LineKind.isPreamble]

/-! ### The kind of a line with a directive put in -/

/-- The kind is a matter of the content. -/
theorem kind_congr {first second : Line} (h : Text.content first = Text.content second) :
    kind first = kind second := by
  have blank : isBlankLine first = isBlankLine second := by
    rw [Bool.eq_iff_iff, isBlankLine_iff, isBlankLine_iff, h]
  simp only [kind, h, blank]

/-- A directive on a line of its own opens a stave. -/
@[simp] theorem kind_staveKeyword : kind staveKeyword = .staveOpen := by
  decide

/-- Nor does it matter how a line with the directive is indented, or what stands behind it, as long
as the directive ends there. -/
theorem kind_pad_staveKeyword {pad rest : Line} (blank : ∀ c ∈ pad, Text.isBlank c = true)
    (ends : rest.head?.any isWordChar = false) :
    kind (pad ++ (staveKeyword ++ rest)) = .staveOpen := by
  have bare : Text.content (staveKeyword ++ rest) = staveKeyword ++ rest :=
    Text.content_cons_of_not_blank (by decide) _
  rw [kind_congr (Text.content_pad blank (staveKeyword ++ rest))]
  have notBlank : isBlankLine (staveKeyword ++ rest) = false := by
    rw [Bool.eq_false_iff, Ne, isBlankLine_iff, bare]
    simp [staveKeyword]
  have opens : isStaveOpen (staveKeyword ++ rest) = true := by
    simp [isStaveOpen, startsWithWord, ends]
  have others : isComment (staveKeyword ++ rest) = false ∧
      isDocumentHeader (staveKeyword ++ rest) = false ∧
      isGlobalOptions (staveKeyword ++ rest) = false := by
    simp [isComment, isDocumentHeader, isGlobalOptions, headerWords, startsWithWord, staveKeyword,
      List.isPrefixOf]
  obtain ⟨comment, header, options⟩ := others
  simp [kind, bare, notBlank, comment, header, options, opens]

end Line

end Tabstave
