import Mathlib.Data.List.Forall2
import Tabstave.Text.Lines

/-!
# Lines hold no line feed, and joined lines are split again

Cutting a text at its breaks leaves no line feed in any line. A carriage return can be left, in front
of a break or anywhere else, and is a character of its line like any other.

So joining and splitting again gives lines back up to one thing: a carriage return at the end of a
line that is not the last becomes part of the break behind it (`forall₂_splitLines_joinLines`).
`ReturnFree` lines have none there and come back as they are, and `returnFree_splitLines` says which
texts have such lines.
-/

namespace Tabstave.Text

theorem feed_notMem_consFirst {c : Char} {lines : List Line} (head : c ≠ '\n')
    (h : ∀ line ∈ lines, '\n' ∉ line) : ∀ line ∈ consFirst c lines, '\n' ∉ line := by
  cases lines with
  | nil =>
    intro line mem
    rw [consFirst, List.mem_singleton] at mem
    rw [mem, List.mem_singleton]
    exact head.symm
  | cons first rest =>
    intro line mem
    rcases List.mem_cons.1 mem with rfl | later
    · intro feed
      rcases List.mem_cons.1 feed with same | inside
      · exact head same.symm
      · exact h first List.mem_cons_self inside
    · exact h line (List.mem_cons_of_mem first later)

/-- No line of a text holds a line feed. -/
theorem feed_notMem_of_mem_splitLines {text : List Char} :
    ∀ line ∈ splitLines text, '\n' ∉ line := by
  fun_induction splitLines text with
  | case1 => simp
  | case2 rest ih => simpa using ih
  | case3 rest ih => simpa using ih
  | case4 c rest _ feed ih => exact feed_notMem_consFirst feed ih

/-! ### Splitting in two parts -/

theorem splitLines_cons {c : Char} {rest : List Char} (notFeed : c ≠ '\n')
    (notBreak : c = '\r' → rest.head? ≠ some '\n') :
    splitLines (c :: rest) = consFirst c (splitLines rest) := by
  refine splitLines.eq_4 c rest (fun after isReturn isFeed ↦ ?_) notFeed
  subst isFeed
  exact notBreak isReturn rfl

theorem consFirst_append {lines : List Line} (some_line : lines ≠ []) (c : Char)
    (more : List Line) : consFirst c (lines ++ more) = consFirst c lines ++ more := by
  cases lines with
  | nil => contradiction
  | cons => rfl

/-- What comes in front of a break is split by itself, unless it ends in a carriage return that the
break takes in. -/
theorem splitLines_append_of_break {tail rest : List Char}
    (breaks : splitLines tail = [] :: splitLines rest) (text : List Char)
    (apart : text.getLast? = some '\r' → tail.head? ≠ some '\n') :
    splitLines (text ++ tail) = splitLines text ++ splitLines rest := by
  fun_induction splitLines text with
  | case1 =>
    rw [List.nil_append, breaks]
    rfl
  | case2 after ih =>
    rw [List.cons_append, List.cons_append, splitLines, ih]
    · rfl
    · exact fun ends ↦ apart (by rw [List.getLast?_cons, List.getLast?_cons, ends]; rfl)
  | case3 after ih =>
    rw [List.cons_append, splitLines, ih]
    · rfl
    · exact fun ends ↦ apart (by rw [List.getLast?_cons, ends]; rfl)
  | case4 c after notBreak notFeed ih =>
    rw [List.cons_append, splitLines_cons notFeed, ih, consFirst_append (splitLines_ne_nil after)]
    · exact fun ends ↦ apart (by rw [List.getLast?_cons, ends]; rfl)
    · -- A carriage return here would make a break with what follows it only across the seam.
      rintro rfl
      cases after with
      | nil => exact apart rfl
      | cons d after =>
        intro isFeed
        exact notBreak after rfl (by simpa using isFeed)

theorem splitLines_append_feed {text : List Char} (h : text.getLast? ≠ some '\r')
    (rest : List Char) : splitLines (text ++ '\n' :: rest) = splitLines text ++ splitLines rest :=
  splitLines_append_of_break (by rw [splitLines]) text fun ends ↦ absurd ends h

theorem splitLines_append_return_feed (text rest : List Char) :
    splitLines (text ++ '\r' :: '\n' :: rest) = splitLines text ++ splitLines rest :=
  splitLines_append_of_break (by rw [splitLines]) text fun _ ↦ by simp

theorem splitLines_of_notMem {line : Line} (h : '\n' ∉ line) : splitLines line = [line] := by
  fun_induction splitLines line with
  | case1 => rfl
  | case2 rest => simp at h
  | case3 rest => simp at h
  | case4 c rest _ _ ih => rw [ih fun later ↦ h (List.mem_cons_of_mem c later), consFirst]

/-! ### Splitting what was joined -/

/-- The text with the same lines, every break a single line feed. -/
def rejoin (text : List Char) : List Char :=
  joinLines (splitLines text)

theorem joinLines_append {lines more : List Line} (some_line : lines ≠ []) (some_more : more ≠ []) :
    joinLines (lines ++ more) = joinLines lines ++ '\n' :: joinLines more := by
  fun_induction joinLines lines with
  | case1 => contradiction
  | case2 line =>
    obtain ⟨next, rest, rfl⟩ := List.exists_cons_of_ne_nil some_more
    rfl
  | case3 line next rest ih =>
    have later := ih (List.cons_ne_nil next rest)
    rw [List.cons_append] at later
    rw [List.cons_append, List.cons_append, joinLines, later, List.append_assoc, List.cons_append]

/-- A line without the carriage return at its end, if it has one. -/
def dropReturn (line : Line) : Line :=
  if line.getLast? = some '\r' then line.dropLast else line

theorem dropReturn_append_singleton {line : Line} (h : line.getLast? = some '\r') :
    dropReturn line ++ ['\r'] = line := by
  rw [dropReturn, if_pos h]
  exact List.dropLast_append_getLast? '\r' h

theorem dropReturn_of_getLast?_ne {line : Line} (h : line.getLast? ≠ some '\r') :
    dropReturn line = line :=
  if_neg h

/-- Of the line in front of a line feed the break takes in the carriage return. -/
theorem splitLines_line_append_feed {line : Line} (h : '\n' ∉ line) (rest : List Char) :
    splitLines (line ++ '\n' :: rest) = dropReturn line :: splitLines rest := by
  by_cases ends : line.getLast? = some '\r'
  · have parts := dropReturn_append_singleton ends
    have inside : '\n' ∉ dropReturn line := fun feed ↦
      h (parts ▸ List.mem_append_left ['\r'] feed)
    calc splitLines (line ++ '\n' :: rest)
        = splitLines (dropReturn line ++ '\r' :: '\n' :: rest) := by
          rw [List.append_cons (dropReturn line), parts]
      _ = splitLines (dropReturn line) ++ splitLines rest := splitLines_append_return_feed _ _
      _ = dropReturn line :: splitLines rest := by
          rw [splitLines_of_notMem inside, List.singleton_append]
  · rw [splitLines_append_feed ends, splitLines_of_notMem h, dropReturn_of_getLast?_ne ends,
      List.singleton_append]

/-- Joined and split again, lines lose at most the carriage return at their end. -/
theorem forall₂_splitLines_joinLines {lines : List Line} (some_line : lines ≠ [])
    (h : ∀ line ∈ lines, '\n' ∉ line) :
    List.Forall₂ (fun out line ↦ out = line ∨ out = dropReturn line)
      (splitLines (joinLines lines)) lines := by
  fun_induction joinLines lines with
  | case1 => contradiction
  | case2 line =>
    rw [splitLines_of_notMem (h line List.mem_cons_self)]
    exact .cons (Or.inl rfl) .nil
  | case3 line next rest ih =>
    rw [splitLines_line_append_feed (h line List.mem_cons_self)]
    exact .cons (Or.inr rfl)
      (ih (List.cons_ne_nil next rest) fun other later ↦ h other (List.mem_cons_of_mem line later))

/-- No line that has another one below it ends in a carriage return. -/
def ReturnFree (lines : List Line) : Prop :=
  lines.Pairwise fun above _ ↦ above.getLast? ≠ some '\r'

theorem returnFree_cons_cons {line next : Line} {rest : List Line} :
    ReturnFree (line :: next :: rest) ↔
      line.getLast? ≠ some '\r' ∧ ReturnFree (next :: rest) := by
  rw [ReturnFree, List.pairwise_cons]
  exact and_congr_left fun _ ↦ ⟨fun h ↦ h next List.mem_cons_self, fun h _ _ ↦ h⟩

/-- Splitting undoes joining, for lines that end in no carriage return. -/
theorem splitLines_joinLines {lines : List Line} (some_line : lines ≠ [])
    (h : ∀ line ∈ lines, '\n' ∉ line) (free : ReturnFree lines) :
    splitLines (joinLines lines) = lines := by
  fun_induction joinLines lines with
  | case1 => contradiction
  | case2 line => exact splitLines_of_notMem (h line List.mem_cons_self)
  | case3 line next rest ih =>
    obtain ⟨ends, free⟩ := returnFree_cons_cons.1 free
    rw [splitLines_line_append_feed (h line List.mem_cons_self), dropReturn_of_getLast?_ne ends,
      ih (List.cons_ne_nil next rest) (fun other later ↦ h other (List.mem_cons_of_mem line later))
        free]

/-- Only a break starts with an empty line that is not the last. -/
theorem exists_break_of_splitLines {text : List Char} {next : Line} {rest : List Line}
    (h : splitLines text = [] :: next :: rest) :
    text.head? = some '\n' ∨ ['\r', '\n'] <+: text := by
  fun_cases splitLines text with
  | case1 => simp [splitLines] at h
  | case2 after => exact Or.inr ⟨after, rfl⟩
  | case3 after => exact Or.inl rfl
  | case4 c after notBreak notFeed =>
    rw [splitLines.eq_4 c after notBreak notFeed] at h
    cases lines : splitLines after <;> simp [lines, consFirst] at h

/-- Only two carriage returns in front of a line feed leave one at the end of a line. -/
theorem returnFree_splitLines {text : List Char} (h : ¬['\r', '\r', '\n'] <:+: text) :
    ReturnFree (splitLines text) := by
  have later {c : Char} {rest : List Char} (h : ¬['\r', '\r', '\n'] <:+: c :: rest) :
      ¬['\r', '\r', '\n'] <:+: rest :=
    fun inside ↦ h (inside.trans (List.suffix_cons c rest).isInfix)
  fun_induction splitLines text with
  | case1 => exact List.pairwise_singleton _ _
  | case2 rest ih => exact List.pairwise_cons.2 ⟨fun _ _ ↦ by simp, ih (later (later h))⟩
  | case3 rest ih => exact List.pairwise_cons.2 ⟨fun _ _ ↦ by simp, ih (later h)⟩
  | case4 c rest notBreak notFeed ih =>
    have free := ih (later h)
    rcases lines : splitLines rest with - | ⟨first, - | ⟨next, others⟩⟩
    · exact absurd lines (splitLines_ne_nil rest)
    · exact List.pairwise_singleton _ _
    · rw [lines] at free
      obtain ⟨ends, free⟩ := returnFree_cons_cons.1 free
      refine returnFree_cons_cons.2 ⟨?_, free⟩
      cases first with
      | nil =>
        -- The line is the one character, and a break follows it.
        rw [List.getLast?_singleton]
        intro isReturn
        obtain rfl := Option.some.inj isReturn
        rcases exists_break_of_splitLines lines with feed | ⟨after, rfl⟩
        · obtain ⟨after, rfl⟩ := List.head?_eq_some_iff.1 feed
          exact notBreak after rfl rfl
        · exact h ⟨[], after, rfl⟩
      | cons d line => rwa [List.getLast?_cons_cons]

end Tabstave.Text
