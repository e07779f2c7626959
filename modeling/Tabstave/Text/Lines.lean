/-!
# Lines of a text

A line ends at a line feed, and a carriage return right in front of the line feed belongs to the
break. A carriage return anywhere else is an ordinary character, and a break at the very end is
followed by an empty last line, so every text has at least one line.

`splitFeeds` cuts at line feeds alone. `splitFeeds_joinLines` says that it undoes `joinLines` on
lines that hold no line feed, and `length_splitLines` and `length_splitFeeds` that either way there
is one line more than there are line feeds.
-/

namespace Tabstave

/-- The characters of one line, without its break. -/
abbrev Line := List Char

namespace Text

/-- Put a character in front of the first line. -/
def consFirst (c : Char) : List Line → List Line
  | [] => [[c]]
  | line :: rest => (c :: line) :: rest

/-- The lines of a text, each ended by a line feed with or without a carriage return before it. -/
def splitLines : List Char → List Line
  | [] => [[]]
  | '\r' :: '\n' :: rest => [] :: splitLines rest
  | '\n' :: rest => [] :: splitLines rest
  | c :: rest => consFirst c (splitLines rest)

/-- The pieces of a text between its line feeds. -/
def splitFeeds : List Char → List Line
  | [] => [[]]
  | '\n' :: rest => [] :: splitFeeds rest
  | c :: rest => consFirst c (splitFeeds rest)

/-- The text whose lines are separated by single line feeds. -/
def joinLines : List Line → List Char
  | [] => []
  | [line] => line
  | line :: next :: rest => line ++ '\n' :: joinLines (next :: rest)

theorem consFirst_ne_nil (c : Char) (lines : List Line) : consFirst c lines ≠ [] := by
  cases lines <;> simp [consFirst]

@[simp] theorem length_consFirst {c : Char} {lines : List Line} (h : lines ≠ []) :
    (consFirst c lines).length = lines.length := by
  cases lines with
  | nil => contradiction
  | cons => rfl

theorem splitLines_ne_nil (text : List Char) : splitLines text ≠ [] := by
  fun_cases splitLines text <;> simp [consFirst_ne_nil]

theorem splitFeeds_ne_nil (text : List Char) : splitFeeds text ≠ [] := by
  fun_cases splitFeeds text <;> simp [consFirst_ne_nil]

/-- There is one line more than there are line feeds. -/
theorem length_splitLines (text : List Char) :
    (splitLines text).length = text.count '\n' + 1 := by
  fun_induction splitLines text with
  | case1 => rfl
  | case2 rest ih => simp [ih]
  | case3 rest ih => simp [ih]
  | case4 c rest _ feed ih =>
    rw [length_consFirst (splitLines_ne_nil rest), ih, List.count_cons_of_ne]
    intro h
    exact feed h

/-- There is one piece more than there are line feeds. -/
theorem length_splitFeeds (text : List Char) :
    (splitFeeds text).length = text.count '\n' + 1 := by
  fun_induction splitFeeds text with
  | case1 => rfl
  | case2 rest ih => simp [ih]
  | case3 c rest feed ih =>
    rw [length_consFirst (splitFeeds_ne_nil rest), ih, List.count_cons_of_ne]
    intro h
    exact feed h

/-- Without a line feed there is one piece. -/
theorem splitFeeds_of_not_mem {line : Line} (h : '\n' ∉ line) : splitFeeds line = [line] := by
  fun_induction splitFeeds line with
  | case1 => rfl
  | case2 rest ih => simp at h
  | case3 c rest feed ih => simp [ih fun later ↦ h (List.mem_cons_of_mem c later), consFirst]

/-- The first line feed ends the first piece. -/
theorem splitFeeds_append_feed {line : Line} (h : '\n' ∉ line) (rest : List Char) :
    splitFeeds (line ++ '\n' :: rest) = line :: splitFeeds rest := by
  induction line with
  | nil => rfl
  | cons c line ih =>
    have differs : c ≠ '\n' := fun same ↦ h (by simp [same])
    rw [List.cons_append, splitFeeds.eq_3 c _ differs,
      ih fun later ↦ h (List.mem_cons_of_mem c later)]
    rfl

/-- Splitting undoes joining, for lines that hold no line feed. -/
theorem splitFeeds_joinLines {lines : List Line} (some_line : lines ≠ [])
    (h : ∀ line ∈ lines, '\n' ∉ line) : splitFeeds (joinLines lines) = lines := by
  fun_induction joinLines lines with
  | case1 => contradiction
  | case2 line => exact splitFeeds_of_not_mem (h line (by simp))
  | case3 line next rest ih =>
    rw [splitFeeds_append_feed (h line (by simp)),
      ih (by simp) fun other later ↦ h other (List.mem_cons_of_mem line later)]

end Text

end Tabstave
