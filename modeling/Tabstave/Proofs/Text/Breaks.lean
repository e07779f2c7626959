import Tabstave.Document.Outcome
import Tabstave.Proofs.Text.Lines

/-!
# Breaks of both kinds

A text can be written with either break behind each of its lines: a line feed alone, or a carriage
return and a line feed. `Written` is such a text before it is put together, and `Written.text` puts
it together. Splitting takes a text apart at all breaks, of whatever kind, and nothing is lost but
the kinds (`joinLines_splitLines`).

The lines come back as they were written, except for one thing: a carriage return at the end of a
line and a bare line feed behind it are a break of the other kind (`splitLines_text`). So exactly
the texts without such a seam are split into the lines that they were written from, and for these
the breaks make no difference to anything that is done line by line. `splitLines_exact` puts this
together.
-/

namespace Tabstave

namespace Text

/-- The end of a line that is followed by another. -/
inductive Break
  | feed
  | returnFeed
  deriving DecidableEq, Repr

namespace Break

/-- The characters of a break. -/
def toList : Break → List Char
  | .feed => ['\n']
  | .returnFeed => ['\r', '\n']

/-- What splitting leaves of a line that has the break behind it. -/
def cut : Break → Line → Line
  | .feed, line => dropReturn line
  | .returnFeed, line => line

end Break

/-- A text as it is written: lines with their breaks, and a last line. -/
structure Written where
  broken : List (Line × Break)
  last : Line
  plain : ∀ line ∈ broken.map Prod.fst ++ [last], '\n' ∉ line

namespace Written

/-- The lines of what is written. -/
def lines (written : Written) : List Line :=
  written.broken.map Prod.fst ++ [written.last]

/-- The lines with their breaks, one after the other. -/
def text (written : Written) : List Char :=
  written.broken.flatMap (fun entry ↦ entry.1 ++ entry.2.toList) ++ written.last

/-- No carriage return at the end of a line meets a bare line feed. -/
def Seamless (written : Written) : Prop :=
  ∀ entry ∈ written.broken, entry.2 = .feed → entry.1.getLast? ≠ some '\r'

end Written

/-! ### Putting lines together again -/

/-- The text with a line feed in place of each carriage return that has a line feed behind it, and
of that line feed. -/
def singleFeeds : List Char → List Char
  | [] => []
  | '\r' :: '\n' :: rest => '\n' :: singleFeeds rest
  | c :: rest => c :: singleFeeds rest

theorem joinLines_nil_cons {lines : List Line} (some_line : lines ≠ []) :
    joinLines ([] :: lines) = '\n' :: joinLines lines := by
  obtain ⟨line, rest, rfl⟩ := List.exists_cons_of_ne_nil some_line
  rfl

theorem joinLines_consFirst {lines : List Line} (some_line : lines ≠ []) (c : Char) :
    joinLines (consFirst c lines) = c :: joinLines lines := by
  obtain ⟨line, rest, rfl⟩ := List.exists_cons_of_ne_nil some_line
  cases rest <;> rfl

/-- The lines of a text, joined by line feeds, are the text up to the kinds of its breaks. -/
theorem joinLines_splitLines (text : List Char) :
    joinLines (splitLines text) = singleFeeds text := by
  fun_induction splitLines text with
  | case1 => rfl
  | case2 rest ih => rw [joinLines_nil_cons (splitLines_ne_nil rest), ih, singleFeeds]
  | case3 rest ih =>
    rw [joinLines_nil_cons (splitLines_ne_nil rest), ih, singleFeeds]
    rintro _ ⟨⟩
  | case4 c rest notBreak _ ih =>
    rw [joinLines_consFirst (splitLines_ne_nil rest), ih, singleFeeds]
    exact fun after isReturn isFeed ↦ notBreak after isReturn isFeed

/-! ### Splitting what was written -/

/-- The first break ends the first line, and takes in a carriage return if it is a bare line feed.
-/
theorem splitLines_line_append_break {line : Line} (plain : '\n' ∉ line) (ends : Break)
    (rest : List Char) :
    splitLines (line ++ ends.toList ++ rest) = ends.cut line :: splitLines rest := by
  rw [List.append_assoc]
  cases ends with
  | feed => exact splitLines_line_append_feed plain rest
  | returnFeed =>
    calc splitLines (line ++ '\r' :: '\n' :: rest)
      _ = splitLines line ++ splitLines rest := splitLines_append_return_feed line rest
      _ = line :: splitLines rest := by rw [splitLines_of_notMem plain, List.singleton_append]

/-- A written text is split into its lines, each as its break leaves it. -/
theorem splitLines_text (written : Written) :
    splitLines written.text =
      written.broken.map (fun entry ↦ entry.2.cut entry.1) ++ [written.last] := by
  obtain ⟨broken, last, plain⟩ := written
  dsimp only [Written.text]
  induction broken with
  | nil => exact splitLines_of_notMem (plain last List.mem_cons_self)
  | cons entry broken ih =>
    obtain ⟨first, later⟩ := List.forall_mem_cons.1 plain
    rw [List.flatMap_cons, List.append_assoc, splitLines_line_append_break first, ih later]
    rfl

theorem dropReturn_eq_self_iff {line : Line} :
    dropReturn line = line ↔ line.getLast? ≠ some '\r' := by
  constructor
  · intro kept ends
    have parts := dropReturn_append_singleton ends
    rw [kept] at parts
    exact absurd (List.append_right_eq_self.1 parts) (List.cons_ne_nil _ _)
  · exact dropReturn_of_getLast?_ne

theorem cut_eq_self_iff (ends : Break) (line : Line) :
    ends.cut line = line ↔ (ends = .feed → line.getLast? ≠ some '\r') := by
  cases ends with
  | feed => exact dropReturn_eq_self_iff.trans ⟨fun h _ ↦ h, fun h ↦ h rfl⟩
  | returnFeed => exact ⟨nofun, fun _ ↦ rfl⟩

/-- Exactly the texts without a seam are split into the lines that they were written from. -/
theorem splitLines_text_eq_lines_iff (written : Written) :
    splitLines written.text = written.lines ↔ written.Seamless := by
  rw [splitLines_text, Written.lines, List.append_left_inj, List.map_inj_left]
  exact forall₂_congr fun entry _ ↦ cut_eq_self_iff entry.2 entry.1

end Text

namespace Document

/-- Texts with the same lines expand to the same, under the same name and with the same options. -/
theorem expandNamed_congr {source other : List Char}
    (same : Text.splitLines source = Text.splitLines other) {name : Option String}
    {extensions : Value} {demanded : Option Bool}
    (shortForm : isShortForm demanded name extensions = .ok true) :
    expandNamed source name extensions demanded = expandNamed other name extensions demanded := by
  rw [expandNamed, expandNamed, shortForm]
  exact congrArg Except.ok (by
    show Stave.expand source = Stave.expand other
    rw [Stave.expand, Stave.expand, same])

/-- **Splitting into lines is exact for every mixture of breaks.** The lines of a text are its parts
between the line feeds, and joined again they are the text up to the kinds of its breaks. The other
way round lines come back from a text exactly if it was written without a seam, and texts in short
form that differ in nothing but such breaks expand to the same. -/
theorem splitLines_exact (text : List Char) (written other : Text.Written) :
    ((∀ line ∈ Text.splitLines text, '\n' ∉ line) ∧
      (Text.splitLines text).length = text.count '\n' + 1 ∧
      Text.joinLines (Text.splitLines text) = Text.singleFeeds text) ∧
    (Text.splitLines written.text = written.lines ↔ written.Seamless) ∧
    (written.lines = other.lines → written.Seamless → other.Seamless →
      ∀ name extensions demanded, isShortForm demanded name extensions = .ok true →
        expandNamed written.text name extensions demanded =
          expandNamed other.text name extensions demanded) := by
  refine ⟨⟨Text.feed_notMem_of_mem_splitLines, Text.length_splitLines text,
    Text.joinLines_splitLines text⟩, Text.splitLines_text_eq_lines_iff written, ?_⟩
  intro sameLines seamless seamless' name extensions demanded shortForm
  have split := (Text.splitLines_text_eq_lines_iff written).2 seamless
  have split' := (Text.splitLines_text_eq_lines_iff other).2 seamless'
  exact expandNamed_congr (split.trans (sameLines.trans split'.symm)) shortForm

end Document

end Tabstave
