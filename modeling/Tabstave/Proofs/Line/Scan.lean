import Mathlib.Data.List.Infix
import Tabstave.Proofs.Line.Padding
import Tabstave.Proofs.Lists

/-!
# One scan of a line

The tests for a kind are made one after the other, each from the start of the content. A scan goes
over it once: it takes the longest word and the longest key that the content starts with, and looks
at what stands behind the key. `scan` tells the kind from these.

The other reading is that of patterns. `Fits` says what the content of a line of each kind looks
like, and leaves open where a key ends and how much white space is taken. The kind is the first one
that the content fits (`kind_eq_scan`). The two come together because a pattern can be met in one
way at most: what ends a word or a key is never a part of it.
-/

namespace Tabstave

/-- The place of a kind in the order in which kinds are tried. -/
def LineKind.rank : LineKind → Nat
  | .blank => 0
  | .comment => 1
  | .documentHeader => 2
  | .globalOptions => 3
  | .staveOpen => 4
  | .staveOptions => 5
  | .content => 6

theorem LineKind.rank_injective : Function.Injective LineKind.rank := by
  intro first second same
  cases first <;> cases second <;> first | rfl | cases same

namespace Line

/-! ### Patterns -/

/-- A directive: its word, and then no further character of a word. -/
def IsDirective (word text : Line) : Prop :=
  ∃ rest, text = word ++ rest ∧ rest.head?.any isWordChar = false

/-- A key: a letter, and then any number of characters of keys. -/
structure IsKey (key : Line) : Prop where
  letter : key.head?.any isLetter = true
  inside : ∀ c ∈ key, isKeyChar c = true

/-- An assignment: some key, white space or none, and an equals sign. -/
def IsAssignment (text : Line) : Prop :=
  ∃ key gap rest, text = key ++ (gap ++ '=' :: rest) ∧ IsKey key ∧
    ∀ c ∈ gap, Text.isSpace c = true

/-- Whether content looks like that of a line of this kind, the other kinds aside. -/
def Fits (text : Line) : LineKind → Prop
  | .blank => text = []
  | .comment => ['/', '/'] <+: text ∨ ['#'] <+: text
  | .documentHeader => ∃ word ∈ headerWords, IsDirective word text
  | .globalOptions => IsDirective "options".toList text
  | .staveOpen => IsDirective staveKeyword text
  | .staveOptions => IsAssignment text ∧ ∀ start ∈ reservedAssignments, ¬start <+: text
  | .content => True

/-! ### The scan -/

/-- The key of the assignment that is a directive of its own. -/
def reservedKey : Line :=
  "tuning".toList

/-- The kind of the lines that start with this word, if it is a directive. -/
def directive? (word : Line) : Option LineKind :=
  if word ∈ headerWords then some .documentHeader
  else if word = "options".toList then some .globalOptions
  else if word = staveKeyword then some .staveOpen
  else none

/-- The kind of a line, from the longest word and the longest key that its content starts with and
from what follows the key. -/
def scan (line : Line) : LineKind :=
  let text := Text.content line
  let key := text.takeWhile isKeyChar
  let after := text.dropWhile isKeyChar
  if text = [] then .blank
  else if ['/', '/'] <+: text ∨ ['#'] <+: text then .comment
  else
    (directive? (text.takeWhile isWordChar)).getD <|
      if key.head?.any isLetter ∧ (after.dropWhile Text.isSpace).head? = some '=' ∧
        ¬(key = reservedKey ∧ after.head? = some '=') then .staveOptions
      else .content

theorem getD_directive? (word : Line) (other : LineKind) : (directive? word).getD other =
    if word ∈ headerWords then .documentHeader
    else if word = "options".toList then .globalOptions
    else if word = staveKeyword then .staveOpen
    else other := by
  rw [directive?]
  split_ifs <;> rfl

/-! ### Words -/

theorem startsWithWord_iff_isDirective (word text : Line) :
    startsWithWord word text = true ↔ IsDirective word text := by
  rw [startsWithWord, Bool.and_eq_true, List.isPrefixOf_iff_prefix, Bool.not_eq_true']
  constructor
  · rintro ⟨⟨rest, rfl⟩, ends⟩
    rw [List.drop_left] at ends
    exact ⟨rest, rfl, ends⟩
  · rintro ⟨rest, rfl, ends⟩
    rw [List.drop_left]
    exact ⟨List.prefix_append _ _, ends⟩

/-- The word of a directive is the longest word that the text starts with. -/
theorem isDirective_iff_takeWhile {word : Line} (solid : word.all isWordChar = true) (text : Line) :
    IsDirective word text ↔ text.takeWhile isWordChar = word := by
  constructor
  · rintro ⟨rest, rfl, ends⟩
    rw [List.takeWhile_append_of_pos (List.all_eq_true.1 solid), List.takeWhile_of_head?_any ends,
      List.append_nil]
  · rintro rfl
    exact ⟨text.dropWhile isWordChar, List.takeWhile_append_dropWhile.symm,
      List.head?_any_dropWhile ..⟩

theorem startsWithWord_iff_takeWhile {word : Line} (solid : word.all isWordChar = true)
    (text : Line) : startsWithWord word text = true ↔ text.takeWhile isWordChar = word :=
  (startsWithWord_iff_isDirective word text).trans (isDirective_iff_takeWhile solid text)

/-! ### Assignments -/

theorem isKeyChar_of_isLetter {c : Char} (h : isLetter c = true) : isKeyChar c = true := by
  rw [isKeyChar, isWordChar, h, Bool.true_or, Bool.true_or, Bool.true_or]

/-- Neither white space nor the equals sign belongs to a key. -/
theorem head?_any_gap {gap : Line} (space : ∀ c ∈ gap, Text.isSpace c = true) (rest : Line) :
    (gap ++ '=' :: rest).head?.any isKeyChar = false := by
  cases gap with
  | nil => rfl
  | cons c gap =>
    have blank : Text.isBlank c = true := by
      rw [Text.isBlank, space c List.mem_cons_self, Bool.true_or]
    exact isKeyChar_of_isBlank blank

/-- The key in front of white space and an equals sign is the longest one that the text starts
with. -/
theorem takeWhile_key {key gap : Line} (inside : ∀ c ∈ key, isKeyChar c = true)
    (space : ∀ c ∈ gap, Text.isSpace c = true) (rest : Line) :
    (key ++ (gap ++ '=' :: rest)).takeWhile isKeyChar = key := by
  rw [List.takeWhile_append_of_pos inside, List.takeWhile_of_head?_any (head?_any_gap space rest),
    List.append_nil]

theorem dropWhile_key {key gap : Line} (inside : ∀ c ∈ key, isKeyChar c = true)
    (space : ∀ c ∈ gap, Text.isSpace c = true) (rest : Line) :
    (key ++ (gap ++ '=' :: rest)).dropWhile isKeyChar = gap ++ '=' :: rest := by
  rw [List.dropWhile_append_of_pos inside, List.dropWhile_of_head?_any (head?_any_gap space rest)]

/-- Behind the white space comes the equals sign. -/
theorem head?_dropWhile_gap {gap : Line} (space : ∀ c ∈ gap, Text.isSpace c = true) (rest : Line) :
    ((gap ++ '=' :: rest).dropWhile Text.isSpace).head? = some '=' := by
  rw [List.dropWhile_append_of_pos space]
  rfl

/-- The key of an assignment is the longest one that the text starts with, and what follows it says
whether something is assigned. -/
theorem startsWithAssignment_iff_takeWhile (text : Line) :
    startsWithAssignment text = true ↔ (text.takeWhile isKeyChar).head?.any isLetter = true ∧
      ((text.dropWhile isKeyChar).dropWhile Text.isSpace).head? = some '=' := by
  cases text with
  | nil => simp [startsWithAssignment]
  | cons first text =>
    rw [startsWithAssignment, Bool.and_eq_true, beq_iff_eq]
    cases key : isKeyChar first with
    | true => rw [List.takeWhile_cons_of_pos key, List.dropWhile_cons_of_pos key]; rfl
    | false =>
      have noLetter : isLetter first = false := by
        by_contra letter
        rw [isKeyChar_of_isLetter (eq_true_of_ne_false letter)] at key
        cases key
      rw [noLetter, List.takeWhile_cons_of_neg (by simp [key])]
      simp

/-- An assignment can be cut up in one way only, which is found by taking as much as possible. -/
theorem startsWithAssignment_iff_isAssignment (text : Line) :
    startsWithAssignment text = true ↔ IsAssignment text := by
  rw [startsWithAssignment_iff_takeWhile]
  constructor
  · rintro ⟨letter, sign⟩
    obtain ⟨rest, after⟩ := List.head?_eq_some_iff.1 sign
    refine ⟨text.takeWhile isKeyChar, (text.dropWhile isKeyChar).takeWhile Text.isSpace, rest, ?_,
      ⟨letter, fun c ↦ List.mem_takeWhile_imp⟩, fun c ↦ List.mem_takeWhile_imp⟩
    rw [← after, List.takeWhile_append_dropWhile, List.takeWhile_append_dropWhile]
  · rintro ⟨key, gap, rest, rfl, isKey, space⟩
    rw [takeWhile_key isKey.inside space, dropWhile_key isKey.inside space]
    exact ⟨isKey.letter, head?_dropWhile_gap space rest⟩

/-- A key with its equals sign right behind it. -/
theorem append_sign_prefix_iff {key : Line} (inside : ∀ c ∈ key, isKeyChar c = true) (text : Line) :
    key ++ ['='] <+: text ↔
      text.takeWhile isKeyChar = key ∧ (text.dropWhile isKeyChar).head? = some '=' := by
  constructor
  · rintro ⟨rest, rfl⟩
    have nothing : ∀ c ∈ ([] : Line), Text.isSpace c = true := List.forall_mem_nil _
    rw [List.append_assoc]
    exact ⟨takeWhile_key inside nothing rest, congrArg _ (dropWhile_key inside nothing rest)⟩
  · rintro ⟨same, sign⟩
    obtain ⟨rest, after⟩ := List.head?_eq_some_iff.1 sign
    refine ⟨rest, ?_⟩
    rw [List.append_assoc, List.singleton_append, ← after, ← same, List.takeWhile_append_dropWhile]

/-! ### The tests, in either reading -/

/-- The test for a kind. -/
def test (line : Line) : LineKind → Bool
  | .blank => isBlankLine line
  | .comment => isComment (Text.content line)
  | .documentHeader => isDocumentHeader (Text.content line)
  | .globalOptions => isGlobalOptions (Text.content line)
  | .staveOpen => isStaveOpen (Text.content line)
  | .staveOptions => isStaveOptions (Text.content line)
  | .content => true

theorem isComment_iff (text : Line) :
    isComment text = true ↔ ['/', '/'] <+: text ∨ ['#'] <+: text := by
  rw [isComment, Bool.or_eq_true, List.isPrefixOf_iff_prefix, List.isPrefixOf_iff_prefix]

theorem isStaveOptions_iff (text : Line) : isStaveOptions text = true ↔
    startsWithAssignment text = true ∧ ∀ start ∈ reservedAssignments, ¬start <+: text := by
  simp [isStaveOptions]

/-- A test looks for the pattern of its kind. -/
theorem test_iff_fits (line : Line) (kind : LineKind) :
    test line kind = true ↔ Fits (Text.content line) kind := by
  cases kind with
  | blank => exact isBlankLine_iff line
  | comment => exact isComment_iff _
  | documentHeader =>
    simp only [test, isDocumentHeader, List.any_eq_true, startsWithWord_iff_isDirective, Fits]
  | globalOptions => exact startsWithWord_iff_isDirective _ _
  | staveOpen => exact startsWithWord_iff_isDirective _ _
  | staveOptions =>
    exact (isStaveOptions_iff _).trans (and_congr_left' (startsWithAssignment_iff_isAssignment _))
  | content => exact iff_of_true rfl trivial

/-- A line passes the test for its kind. -/
theorem test_kind (line : Line) : test line (kind line) = true := by
  unfold kind
  dsimp only
  split_ifs <;> first | assumption | rfl

/-- And it fails the tests that are made before. -/
theorem test_of_rank_lt {line : Line} {other : LineKind} (before : other.rank < (kind line).rank) :
    test line other = false := by
  unfold kind at before
  dsimp only at before
  -- In each case of the chain the tests made so far have failed, and the others come no sooner.
  split_ifs at before with blank comment header options opens assigns <;>
    cases other <;> simp_all [LineKind.rank, test]

theorem isDocumentHeader_iff_takeWhile (text : Line) :
    isDocumentHeader text = true ↔ text.takeWhile isWordChar ∈ headerWords := by
  have solid : ∀ word ∈ headerWords, word.all isWordChar = true := by decide
  rw [isDocumentHeader, List.any_eq_true]
  constructor
  · rintro ⟨word, mem, starts⟩
    rwa [(startsWithWord_iff_takeWhile (solid word mem) text).1 starts]
  · intro mem
    exact ⟨_, mem, (startsWithWord_iff_takeWhile (solid _ mem) text).2 rfl⟩

theorem isStaveOptions_iff_takeWhile (text : Line) : isStaveOptions text = true ↔
    (text.takeWhile isKeyChar).head?.any isLetter = true ∧
      ((text.dropWhile isKeyChar).dropWhile Text.isSpace).head? = some '=' ∧
      ¬(text.takeWhile isKeyChar = reservedKey ∧
        (text.dropWhile isKeyChar).head? = some '=') := by
  have inside : ∀ c ∈ reservedKey, isKeyChar c = true := List.all_eq_true.1 (by decide)
  have reserved := append_sign_prefix_iff inside text
  rw [isStaveOptions_iff, startsWithAssignment_iff_takeWhile, ← reserved, and_assoc,
    reservedAssignments, List.forall_mem_singleton]
  rfl

/-- The scan finds what the tests find one by one. -/
theorem scan_eq_kind (line : Line) : scan line = kind line := by
  have solid : staveKeyword.all isWordChar = true := by decide
  have solid' : "options".toList.all isWordChar = true := by decide
  simp only [scan, getD_directive?, kind, isBlankLine_iff, isComment_iff,
    isDocumentHeader_iff_takeWhile, isGlobalOptions, isStaveOpen,
    startsWithWord_iff_takeWhile solid, startsWithWord_iff_takeWhile solid',
    isStaveOptions_iff_takeWhile]

/-- **One scan of a line tells its kind, and this is the first kind that the content fits.** -/
theorem kind_eq_scan (line : Line) :
    kind line = scan line ∧ ∀ found : LineKind, kind line = found ↔
      Fits (Text.content line) found ∧
        ∀ other : LineKind, other.rank < found.rank → ¬Fits (Text.content line) other := by
  refine ⟨(scan_eq_kind line).symm, fun found ↦ ⟨?_, ?_⟩⟩
  · rintro rfl
    refine ⟨(test_iff_fits line _).1 (test_kind line), fun other before fits ↦ ?_⟩
    rw [← test_iff_fits, test_of_rank_lt before] at fits
    cases fits
  · rintro ⟨fits, first⟩
    -- The line fits its own kind, so this is not earlier, and fits no earlier one.
    rcases Nat.lt_trichotomy (kind line).rank found.rank with less | same | more
    · exact absurd ((test_iff_fits line _).1 (test_kind line)) (first _ less)
    · exact LineKind.rank_injective same
    · rw [← test_iff_fits, test_of_rank_lt more] at fits
      cases fits

/-- The word ends at the hyphen, where the key goes on, and a directive comes first. -/
example : kind "\uFEFFtabstave-a =1".toList = .staveOpen := by decide

end Line

end Tabstave
