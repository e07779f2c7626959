import Mathlib.Data.List.TakeWhile
import Tabstave.Proofs.Line.Kind
import Tabstave.Proofs.Text.Lines

/-!
# Blank characters behind a line

Nothing that a kind is recognised by is blank: not the marks of comments, not the directives, not a
key or its equals sign. So blank characters at the end of a line neither make up what a test looks
for nor break it off, and `kind_append_blank` says that the kind stays what it is.

The carriage return is the one of them that matters elsewhere: split and joined again, a text can
lose those at the end of its lines (`kind_dropReturn`).
-/

namespace Tabstave

namespace Text

/-- Behind the content there is no more indentation. -/
theorem content_append {line : List Char} (h : content line ≠ []) (pad : List Char) :
    content (line ++ pad) = content line ++ pad := by
  rw [content, List.dropWhile_append, if_neg]
  · rfl
  · simpa [content] using h

/-- And the indentation ends where it ended. -/
theorem indentation_append {line : List Char} (h : content line ≠ []) (pad : List Char) :
    indentation (line ++ pad) = indentation line := by
  have parts := indentation_append_content (line ++ pad)
  rw [content_append h, ← List.append_assoc, List.append_left_inj] at parts
  exact List.append_cancel_right (parts.trans (indentation_append_content line).symm)

theorem content_append_of_blank {line pad : List Char} (h : content line = [])
    (blank : ∀ c ∈ pad, isBlank c = true) : content (line ++ pad) = [] := by
  refine List.dropWhile_eq_nil_iff.2 fun c mem ↦ ?_
  rcases List.mem_append.1 mem with inside | behind
  · exact List.dropWhile_eq_nil_iff.1 h c inside
  · exact blank c behind

end Text

namespace Line

/-! ### What is not blank -/

/-- The codes of the characters that keys are made of. -/
theorem toNat_of_isKeyChar {c : Char} (h : isKeyChar c = true) :
    c.toNat = 45 ∨ (48 ≤ c.toNat ∧ c.toNat ≤ 57) ∨ (65 ≤ c.toNat ∧ c.toNat ≤ 90) ∨
      c.toNat = 95 ∨ (97 ≤ c.toNat ∧ c.toNat ≤ 122) := by
  simp only [isKeyChar, isWordChar, isLetter, Bool.or_eq_true, Bool.and_eq_true, decide_eq_true_eq,
    beq_iff_eq, Char.le_def, UInt32.le_iff_toNat_le, Char.toNat_val, Char.reduceToNat] at h
  rcases h with (((small | capital) | digit) | rfl) | rfl
  · omega
  · omega
  · omega
  · decide
  · decide

theorem isBlank_of_isKeyChar {c : Char} (h : isKeyChar c = true) : Text.isBlank c = false := by
  have code := toNat_of_isKeyChar h
  have notMark : c ≠ '\uFEFF' := by
    rintro rfl
    exact absurd h (by decide)
  have notSpace : Text.isSpace c = false := by
    simp only [Text.isSpace, Bool.or_eq_false_iff, Bool.and_eq_false_iff, decide_eq_false_iff_not,
      beq_eq_false_iff_ne]
    omega
  rw [Text.isBlank, notSpace, Bool.false_or]
  exact beq_eq_false_iff_ne.2 notMark

theorem isKeyChar_of_isBlank {c : Char} (h : Text.isBlank c = true) : isKeyChar c = false := by
  cases key : isKeyChar c with
  | false => rfl
  | true => rw [isBlank_of_isKeyChar key] at h; cases h

theorem isWordChar_of_isBlank {c : Char} (h : Text.isBlank c = true) : isWordChar c = false :=
  (Bool.or_eq_false_iff.1 (isKeyChar_of_isBlank h)).1

/-! ### The tests for a kind -/

section Pad

variable {pad : Line} (blank : ∀ c ∈ pad, Text.isBlank c = true)

include blank

/-- The first character of what is blank is in no class without blank characters. -/
theorem head?_any_of_blank {p : Char → Bool} (solid : ∀ c, Text.isBlank c = true → p c = false) :
    pad.head?.any p = false := by
  cases pad with
  | nil => rfl
  | cons c _ => exact solid c (blank c List.mem_cons_self)

theorem isPrefixOf_append_blank {word : List Char} (solid : (word.all (!Text.isBlank ·)) = true)
    (text : Line) : word.isPrefixOf (text ++ pad) = word.isPrefixOf text := by
  induction word generalizing text with
  | nil => simp
  | cons w word ih =>
    obtain ⟨first, later⟩ := Bool.and_eq_true_iff.1 (List.all_cons.symm.trans solid)
    cases text with
    | nil =>
      cases pad with
      | nil => rfl
      | cons c rest =>
        have differs : w ≠ c := by
          rintro rfl
          rw [blank w List.mem_cons_self] at first
          cases first
        simp [List.isPrefixOf, differs]
    | cons c text => rw [List.cons_append, List.isPrefixOf, List.isPrefixOf, ih later]

theorem startsWithWord_append_blank {word : List Char}
    (solid : (word.all (!Text.isBlank ·)) = true) (text : Line) :
    startsWithWord word (text ++ pad) = startsWithWord word text := by
  rw [startsWithWord, startsWithWord, isPrefixOf_append_blank blank solid]
  cases found : word.isPrefixOf text with
  | false => rfl
  | true =>
    have inside : word.length ≤ text.length :=
      (List.isPrefixOf_iff_prefix.1 found).length_le
    rw [List.drop_append_of_le_length inside]
    cases text.drop word.length with
    | nil => simp [head?_any_of_blank blank fun _ ↦ isWordChar_of_isBlank]
    | cons c rest => rfl

/-- Blank characters are passed over where white space is, and end a key where it ends anyway. -/
theorem startsWithAssignment_append_blank {text : Line} (some_text : text ≠ []) :
    startsWithAssignment (text ++ pad) = startsWithAssignment text := by
  cases text with
  | nil => contradiction
  | cons c rest =>
    have key : (rest ++ pad).dropWhile isKeyChar = rest.dropWhile isKeyChar ++ pad := by
      rw [List.dropWhile_append]
      split
      · next none =>
        have stays : pad.dropWhile isKeyChar = pad := by
          cases pad with
          | nil => rfl
          | cons d _ =>
            exact List.dropWhile_cons_of_neg
              (by simp [isKeyChar_of_isBlank (blank d List.mem_cons_self)])
        rw [stays, List.isEmpty_iff.1 none, List.nil_append]
      · rfl
    have sign : ∀ after : Line, (((after ++ pad).dropWhile Text.isSpace).head? == some '=') =
        ((after.dropWhile Text.isSpace).head? == some '=') := by
      intro after
      rw [List.dropWhile_append]
      split
      · next none =>
        rw [List.isEmpty_iff.1 none]
        have absent : (pad.dropWhile Text.isSpace).head? ≠ some '=' := by
          intro found
          have mem := (List.dropWhile_sublist Text.isSpace).subset (List.mem_of_mem_head? found)
          exact absurd (blank '=' mem) (by decide)
        simpa using absent
      · next some_rest =>
        cases rest : after.dropWhile Text.isSpace with
        | nil => simp [rest] at some_rest
        | cons d more => rfl
    rw [List.cons_append, startsWithAssignment, startsWithAssignment, key, sign]

theorem isStaveOptions_append_blank {text : Line} (some_text : text ≠ []) :
    isStaveOptions (text ++ pad) = isStaveOptions text := by
  rw [isStaveOptions, isStaveOptions, startsWithAssignment_append_blank blank some_text,
    reservedAssignments]
  simp only [List.any_cons, List.any_nil]
  rw [isPrefixOf_append_blank blank (by decide)]

theorem isComment_append_blank (text : Line) : isComment (text ++ pad) = isComment text := by
  rw [isComment, isComment, isPrefixOf_append_blank blank (by decide),
    isPrefixOf_append_blank blank (by decide)]

theorem isDocumentHeader_append_blank (text : Line) :
    isDocumentHeader (text ++ pad) = isDocumentHeader text := by
  simp only [isDocumentHeader, headerWords, List.any_cons, List.any_nil]
  rw [startsWithWord_append_blank blank (by decide), startsWithWord_append_blank blank (by decide),
    startsWithWord_append_blank blank (by decide)]

theorem isGlobalOptions_append_blank (text : Line) :
    isGlobalOptions (text ++ pad) = isGlobalOptions text :=
  startsWithWord_append_blank blank (by decide) text

theorem isStaveOpen_append_blank (text : Line) : isStaveOpen (text ++ pad) = isStaveOpen text :=
  startsWithWord_append_blank blank (by decide) text

/-- **Blank characters at the end of a line do not change its kind.** -/
theorem kind_append_blank (line : Line) : kind (line ++ pad) = kind line := by
  by_cases none : Text.content line = []
  · rw [(kind_eq_blank_iff line).2 ((isBlankLine_iff line).2 none)]
    exact (kind_eq_blank_iff _).2 ((isBlankLine_iff _).2 (Text.content_append_of_blank none blank))
  · have same := Text.content_append none pad
    have some_line : isBlankLine line = false := by
      rw [Bool.eq_false_iff, Ne, isBlankLine_iff]
      exact none
    have some_padded : isBlankLine (line ++ pad) = false := by
      rw [Bool.eq_false_iff, Ne, isBlankLine_iff, same, List.append_eq_nil_iff]
      exact fun both ↦ none both.1
    simp only [kind, same, some_line, some_padded, isComment_append_blank blank,
      isDocumentHeader_append_blank blank, isGlobalOptions_append_blank blank,
      isStaveOpen_append_blank blank, isStaveOptions_append_blank blank none]

end Pad

/-- Nor does a carriage return at its end, which splitting takes away. -/
theorem kind_dropReturn (line : Line) : kind (Text.dropReturn line) = kind line := by
  by_cases ends : line.getLast? = some '\r'
  · have blank : ∀ c ∈ ['\r'], Text.isBlank c = true := List.forall_mem_singleton.2 (by decide)
    have same := kind_append_blank blank (Text.dropReturn line)
    rw [Text.dropReturn_append_singleton ends] at same
    exact same.symm
  · rw [Text.dropReturn_of_getLast?_ne ends]

end Line

end Tabstave
