/-!
# Blank characters and indentation

A line starts with its indentation, the longest run of blank characters. White space of every script
is blank, and so is the byte order mark, which some editors leave at the start of a buffer.

`indentation_append_content` says that the two parts make up the line, and
`indentation_pad` that blank characters put in front of a line only lengthen its indentation.
The indentation of a line is all blank, and its content is empty or starts with a character that is
not: so content has no indentation of its own (`indentation_content`).
-/

namespace Tabstave.Text

/-- White space: the ASCII controls 9 to 13 and 28 to 31, the space, and the separators of Unicode.
-/
def isSpace (c : Char) : Bool :=
  let code := c.toNat
  (9 ≤ code && code ≤ 13) || (28 ≤ code && code ≤ 32) || code == 0x85 || code == 0xa0 ||
    code == 0x1680 || (0x2000 ≤ code && code ≤ 0x200a) || code == 0x2028 || code == 0x2029 ||
    code == 0x202f || code == 0x205f || code == 0x3000

/-- White space or the byte order mark. -/
def isBlank (c : Char) : Bool :=
  isSpace c || c == '\uFEFF'

/-- The run of blank characters at the start of a line. -/
def indentation (line : List Char) : List Char :=
  line.takeWhile isBlank

/-- What follows the indentation. -/
def content (line : List Char) : List Char :=
  line.dropWhile isBlank

/-- Indentation and content make up the line. -/
theorem indentation_append_content (line : List Char) :
    indentation line ++ content line = line :=
  List.takeWhile_append_dropWhile

/-- Blank characters in front of a line only lengthen its indentation. -/
theorem indentation_pad {pad : List Char} (blank : ∀ c ∈ pad, isBlank c = true)
    (line : List Char) : indentation (pad ++ line) = pad ++ indentation line := by
  induction pad with
  | nil => rfl
  | cons c pad ih =>
    have head : isBlank c = true := blank c (by simp)
    have tail := ih fun d h ↦ blank d (by simp [h])
    simp only [indentation] at tail
    simp [indentation, head, tail]

/-- Blank characters in front of a line leave its content as it is. -/
theorem content_pad {pad : List Char} (blank : ∀ c ∈ pad, isBlank c = true)
    (line : List Char) : content (pad ++ line) = content line := by
  induction pad with
  | nil => rfl
  | cons c pad ih =>
    have head : isBlank c = true := blank c (by simp)
    have tail := ih fun d h ↦ blank d (by simp [h])
    simp only [content] at tail
    simp [content, head, tail]

theorem isBlank_of_mem_indentation {line : List Char} {c : Char} (h : c ∈ indentation line) :
    isBlank c = true := by
  have all := List.all_takeWhile (p := isBlank) (l := line)
  exact List.all_eq_true.1 all c h

/-- What starts with a character that is not blank has no indentation. -/
theorem content_cons_of_not_blank {c : Char} (h : isBlank c = false) (rest : List Char) :
    content (c :: rest) = c :: rest := by
  rw [content, List.dropWhile_cons_of_neg (by simp [h])]

theorem indentation_cons_of_not_blank {c : Char} (h : isBlank c = false) (rest : List Char) :
    indentation (c :: rest) = [] := by
  rw [indentation, List.takeWhile_cons_of_neg (by simp [h])]

/-- Content has no indentation of its own. -/
theorem indentation_content (line : List Char) : indentation (content line) = [] := by
  rw [indentation, content]
  rcases hrest : line.dropWhile isBlank with - | ⟨c, rest⟩
  · rfl
  · have first : isBlank c = false := by
      have head := List.head_dropWhile_not (p := isBlank) (l := line)
      simpa [hrest] using head
    exact indentation_cons_of_not_blank first rest

theorem mem_of_mem_indentation {line : List Char} {c : Char} (h : c ∈ indentation line) :
    c ∈ line :=
  (List.takeWhile_sublist _).subset h

theorem mem_of_mem_content {line : List Char} {c : Char} (h : c ∈ content line) : c ∈ line :=
  (List.dropWhile_sublist _).subset h

end Tabstave.Text
