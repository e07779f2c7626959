import Tabstave.Proofs.Line.Scan
import Tabstave.Stave.Expansion

/-!
# White space in front of the equals sign

A line that assigns something to a key is told by its key alone: by the word that the key starts
with, if that is a directive, and else as stave options. The white space between the key and its
equals sign is passed over. `kind_assignment` says so, with the one exception that there is: the
reserved assignment is looked for together with its equals sign, so it is found only where that
stands right behind the key. Spaced out, it is taken for stave options (`kind_spaced_reserved`).
-/

namespace Tabstave.Line

/-- The kind of the lines that assign something to a key, unless it is the reserved one. -/
def kindOfKey (key : Line) : LineKind :=
  (directive? (key.takeWhile isWordChar)).getD .staveOptions

section Assignment

variable {indent key gap : Line} (blank : ∀ c ∈ indent, Text.isBlank c = true) (isKey : IsKey key)
  (space : ∀ c ∈ gap, Text.isSpace c = true) (rest : Line)

include isKey in
theorem IsKey.exists_cons : ∃ first more, key = first :: more ∧ isLetter first = true := by
  have letter := isKey.letter
  cases key with
  | nil => cases letter
  | cons first more => exact ⟨first, more, rfl, letter⟩

include isKey in
/-- No comment starts like a key. -/
theorem not_comment_of_isKey : ¬(['/', '/'] <+: key ++ rest ∨ ['#'] <+: key ++ rest) := by
  obtain ⟨first, more, rfl, letter⟩ := isKey.exists_cons
  intro comment
  have marked : '/' = first ∨ '#' = first :=
    comment.imp (fun start ↦ (List.cons_prefix_cons.1 start).1)
      (fun start ↦ (List.cons_prefix_cons.1 start).1)
  rcases marked with rfl | rfl <;> exact absurd letter (by decide)

include blank isKey in
theorem content_of_isKey : Text.content (indent ++ (key ++ rest)) = key ++ rest := by
  obtain ⟨first, more, rfl, letter⟩ := isKey.exists_cons
  rw [Text.content_pad blank]
  exact Text.content_cons_of_not_blank (isBlank_of_isKeyChar (isKeyChar_of_isLetter letter)) _

include space in
/-- No word goes on beyond the key. -/
theorem takeWhile_word :
    (key ++ (gap ++ '=' :: rest)).takeWhile isWordChar = key.takeWhile isWordChar := by
  have stop : (gap ++ '=' :: rest).head?.any isWordChar = false := by
    have outside := head?_any_gap space rest
    cases found : (gap ++ '=' :: rest).head? with
    | none => rfl
    | some c =>
      rw [found] at outside
      exact (Bool.or_eq_false_iff.1 outside).1
  rw [List.takeWhile_append, List.takeWhile_of_head?_any stop, List.append_nil]
  split
  · next all => exact ((List.takeWhile_prefix _).eq_of_length all).symm
  · rfl

include space in
/-- The equals sign stands right behind the key if there is no white space. -/
theorem head?_gap_iff : (gap ++ '=' :: rest).head? = some '=' ↔ gap = [] := by
  cases gap with
  | nil => simp
  | cons c gap =>
    have differs : c ≠ '=' := by
      rintro rfl
      exact absurd (space '=' List.mem_cons_self) (by decide)
    simp [differs]

include blank isKey space in
/-- **The kind of a line that assigns something is the kind of its key**, but for the reserved key
with its equals sign right behind it. -/
theorem kind_assignment : kind (indent ++ (key ++ (gap ++ '=' :: rest))) =
    if key = reservedKey ∧ gap = [] then .content else kindOfKey key := by
  have some_text : key ++ (gap ++ '=' :: rest) ≠ [] := by simp
  rw [← scan_eq_kind, scan, content_of_isKey blank isKey]
  simp only [some_text, if_false, not_comment_of_isKey isKey, takeWhile_word space,
    takeWhile_key isKey.inside space, dropWhile_key isKey.inside space, isKey.letter, true_and,
    head?_dropWhile_gap space, head?_gap_iff space, kindOfKey]
  by_cases reserved : key = reservedKey ∧ gap = []
  · rw [if_pos reserved, reserved.1]
    simp only [reserved.2, and_self]
    decide
  · simp only [reserved, not_false_eq_true, if_true, if_false]

include blank isKey space in
/-- **White space in front of the equals sign makes no difference to the kind, except behind the
reserved key.** Right behind that key the sign makes the line content; with white space between them
the line counts as stave options. -/
theorem kind_spaced_assignment :
    (kind (indent ++ (key ++ (gap ++ '=' :: rest))) = kind (indent ++ (key ++ '=' :: rest)) ↔
      key ≠ reservedKey ∨ gap = []) ∧
    (key = reservedKey → kind (indent ++ (key ++ '=' :: rest)) = .content ∧
      (gap ≠ [] → kind (indent ++ (key ++ (gap ++ '=' :: rest))) = .staveOptions)) := by
  have nothing : ∀ c ∈ ([] : Line), Text.isSpace c = true := List.forall_mem_nil _
  have close := kind_assignment blank isKey nothing rest
  rw [List.nil_append] at close
  rw [kind_assignment blank isKey space, close]
  by_cases reserved : key = reservedKey
  · have options : kindOfKey reservedKey = .staveOptions := by decide
    by_cases none : gap = [] <;> simp [reserved, none, options]
  · simp [reserved]

end Assignment

/-- Both sorts of white space behind a key, and an indentation that starts with the byte order
mark. -/
theorem kind_spaced_assignment_clef :
    IsKey "clef".toList ∧ kind "\uFEFF clef \t=g".toList = kind "\uFEFF clef=g".toList := by
  have isKey : IsKey "clef".toList := ⟨by decide, List.all_eq_true.1 (by decide)⟩
  have blank : ∀ c ∈ ['\uFEFF', ' '], Text.isBlank c = true :=
    List.all_eq_true.1 (by decide)
  have space : ∀ c ∈ [' ', '\t'], Text.isSpace c = true := List.all_eq_true.1 (by decide)
  have spaced := kind_spaced_assignment blank isKey space ['g']
  exact ⟨isKey, spaced.1.2 (.inl (by decide))⟩

/-- A space behind the reserved key: the line is no longer content, and it gets the directive that
it is itself. -/
theorem kind_spaced_reserved :
    kind "tuning =E/5".toList ≠ kind "tuning=E/5".toList ∧
      (Stave.expand "tuning =E/5".toList).text = "tabstave tuning =E/5".toList := by
  decide

end Tabstave.Line
