import Mathlib.Data.List.Infix
import Tabstave.Cli.Run
import Tabstave.Proofs.Number.Whole

/-!
# A command line for a cursor

A word that holds a long name, an equals sign and a value is the option with that name, whatever the
value looks like (`readWord_valued`), and the program as a whole passes it over
(`exists_readWord_valued`). So for every path that does not look like an option and all numbers that
are not too long there is a command line that asks for the cursor (`ofWords_mapCursor`).
-/

namespace Tabstave.Cli

/-- An option and its value in one word. -/
def valued (name value : String) : String :=
  name ++ "=" ++ value

theorem toList_valued (name value : String) :
    (valued name value).toList = name.toList ++ '=' :: value.toList := by
  rw [valued, String.toList_append, String.toList_append, List.append_assoc]
  rfl

theorem splitValue_valued {name : String} (plain : '=' ∉ name.toList) (value : String) :
    splitValue (valued name value) = (name, some value) := by
  have noSign : ∀ c ∈ name.toList, (c != '=') = true := fun c mem ↦
    bne_iff_ne.2 fun same ↦ plain (same ▸ mem)
  have upTo : (name.toList ++ '=' :: value.toList).takeWhile (· != '=') = name.toList := by
    rw [List.takeWhile_append_of_pos noSign, List.takeWhile_cons_of_neg (by decide),
      List.append_nil]
  rw [splitValue, toList_valued, upTo, List.drop_left]
  simp only [String.ofList_toList]

/-- A word that does not start with a dash is no option. -/
theorem readWord_of_head?_ne (isDigit : Char → Bool) (options : List OptionSpec) {word : String}
    (noDash : word.toList.head? ≠ some '-') : readWord isDigit options word = .ok .argument := by
  have noPrefix : "-".toList.isPrefixOf word.toList = false := by
    cases letters : word.toList with
    | nil => rfl
    | cons c rest =>
      have other : '-' ≠ c := by
        rintro rfl
        exact noDash (letters ▸ rfl)
      exact Bool.and_eq_false_iff.2 (.inl (beq_eq_false_iff_ne.2 other))
  rw [readWord, noPrefix]
  rfl

section Valued

variable {options : List OptionSpec} (plain : ∀ entry ∈ namesOf options, '=' ∉ entry.1.toList)

theorem valued_ne {word : String} (noSign : '=' ∉ word.toList) (name value : String) :
    valued name value ≠ word := by
  rintro rfl
  rw [toList_valued] at noSign
  exact noSign (List.mem_append_right _ List.mem_cons_self)

theorem valued_ne_dash (name value : String) : valued name value ≠ "-" :=
  valued_ne (by decide) name value

theorem valued_ne_dashes (name value : String) : valued name value ≠ "--" :=
  valued_ne (by decide) name value

include plain in
theorem lookup_valued (name value : String) : (namesOf options).lookup (valued name value) = none :=
  List.lookup_eq_none_iff.2 fun entry mem ↦
    bne_iff_ne.2 (valued_ne (plain entry mem) name value)

theorem isPrefixOf_valued {name : String} (dash : name.toList.head? = some '-') (value : String) :
    "-".toList.isPrefixOf (valued name value).toList = true := by
  rw [toList_valued]
  cases letters : name.toList with
  | nil => rw [letters] at dash; cases dash
  | cons c rest => rw [letters] at dash; cases dash; simp

include plain in
/-- A word with the name of an option and a value is that option with the value. -/
theorem readWord_valued (isDigit : Char → Bool) {name : String} {spec : OptionSpec}
    (dash : name.toList.head? = some '-') (known : (namesOf options).lookup name = some spec)
    (value : String) :
    readWord isDigit options (valued name value) =
      .ok (.option (some spec) name (some value)) := by
  have noSign : '=' ∉ name.toList := by
    obtain ⟨before, behind, parts, -⟩ := List.lookup_eq_some_iff.1 known
    exact plain (name, spec) (parts ▸ List.mem_append_cons_self)
  rw [readWord, isPrefixOf_valued dash, lookup_valued plain]
  simp only [Bool.not_true, Bool.false_eq_true, if_false, valued_ne_dash, splitValue_valued noSign,
    known]

include plain in
/-- A word with a value and a long name that no option's name starts with is no mistake yet. -/
theorem exists_readWord_valued (isDigit : Char → Bool) {name : String}
    (long : "--".toList.isPrefixOf name.toList = true) (noSign : '=' ∉ name.toList)
    (unknown : ∀ entry ∈ namesOf options, name.toList.isPrefixOf entry.1.toList = false)
    (value : String) : ∃ reading, readWord isDigit options (valued name value) = .ok reading := by
  obtain ⟨rest, letters⟩ := List.isPrefixOf_iff_prefix.1 long
  have dash : name.toList.head? = some '-' := letters ▸ rfl
  have longWord : "--".toList.isPrefixOf (valued name value).toList = true := by
    rw [toList_valued, ← letters]
    rfl
  have noName : (namesOf options).lookup name = none := by
    refine List.lookup_eq_none_iff.2 fun entry mem ↦ bne_iff_ne.2 fun same ↦ ?_
    have starts := unknown entry mem
    rw [← same, List.isPrefixOf_iff_prefix.2 (List.prefix_refl _)] at starts
    cases starts
  have none : candidates options (valued name value) = [] := by
    rw [candidates, longWord, if_pos rfl, splitValue_valued noSign]
    refine List.filterMap_eq_nil_iff.2 fun entry mem ↦ ?_
    exact if_neg (by rw [unknown entry mem]; decide)
  rw [readWord, isPrefixOf_valued dash, lookup_valued plain]
  simp only [Bool.not_true, Bool.false_eq_true, if_false, valued_ne_dash, splitValue_valued noSign,
    noName, none]
  split <;> exact ⟨_, rfl⟩

end Valued

/-! ### The command line -/

theorem readWords_cons {isDigit : Char → Bool} {options : List OptionSpec} {word : String}
    {reading : Reading} {words : List String} {readings : List (String × Reading)}
    (noDashes : word ≠ "--") (first : readWord isDigit options word = .ok reading)
    (later : readWords isDigit options words = .ok readings) :
    readWords isDigit options (word :: words) = .ok ((word, reading) :: readings) := by
  rw [readWords, if_neg noDashes, first, later]
  rfl

theorem givenOf_renderInt (spec : OptionSpec) {n : Int}
    (short : n.natAbs < Nat.pow 10 Number.maxDigits) :
    givenOf (String.ofList (Json.renderInt n)) (numberOf spec) = .ok (.value n) := by
  have read := Number.int?_renderInt short
  have noDashes : String.ofList (Json.renderInt n) ≠ "--" := by
    intro same
    have letters : Json.renderInt n = ['-', '-'] := by
      rw [← String.toList_ofList (l := Json.renderInt n), same]
      rfl
    have unreadable : Number.int? ['-', '-'] = none := by decide
    rw [letters, unreadable] at read
    cases read
  rw [givenOf, if_neg noDashes, numberOf, String.toList_ofList, read]
  rfl

theorem goThrough_value {options : List OptionSpec} {spec : OptionSpec} {value : String}
    {arguments result : Arguments} (takes : spec.takesValue = true)
    (set : arguments.set spec value = .ok result) (fuel : Nat) (word name : String)
    (rest : List (String × Reading)) :
    goThrough options (fuel + 1) arguments ((word, .option (some spec) name (some value)) :: rest) =
      goThrough options fuel result rest := by
  have took : takeOptions options (word.length + 1) spec name (some value) rest =
      .ok ([(spec, value)], rest) := by
    rw [takeOptions, if_pos takes]
  rw [goThrough.eq_def]
  simp only [took, bind, Except.bind, Arguments.setAll, set]

/-- The command line that asks for a cursor of a source. -/
def cursorWords (path : String) (line column : Int) : List String :=
  ["map-cursor", path, valued "--line" (String.ofList (Json.renderInt line)),
    valued "--column" (String.ofList (Json.renderInt column))]

theorem ne_dashes {word : String} (noDash : word.toList.head? ≠ some '-') : word ≠ "--" := by
  rintro rfl
  exact noDash rfl

/-- The program as a whole passes over it. -/
theorem exists_readWords_cursorWords {path : String} (noDash : path.toList.head? ≠ some '-')
    (line column : Int) :
    ∃ readings, readWords Text.isDecimalDigit programOptions (cursorWords path line column) =
      .ok readings := by
  have plain : ∀ entry ∈ namesOf programOptions, '=' ∉ entry.1.toList := by decide
  obtain ⟨lineReading, readLine⟩ := exists_readWord_valued plain Text.isDecimalDigit
    (by decide : "--".toList.isPrefixOf "--line".toList = true) (by decide) (by decide)
    (String.ofList (Json.renderInt line))
  obtain ⟨columnReading, readColumn⟩ := exists_readWord_valued plain Text.isDecimalDigit
    (by decide : "--".toList.isPrefixOf "--column".toList = true) (by decide) (by decide)
    (String.ofList (Json.renderInt column))
  exact ⟨_, readWords_cons (by decide) (readWord_of_head?_ne _ _ (by decide)) <|
    readWords_cons (ne_dashes noDash) (readWord_of_head?_ne _ _ noDash) <|
    readWords_cons (valued_ne_dashes _ _) readLine <|
    readWords_cons (valued_ne_dashes _ _) readColumn rfl⟩

/-- What it says. -/
def cursorArguments (path : String) (line column : Int) : Arguments :=
  { source := some (Path.ofString path), line := .value line, column := .value column }

/-- What its words are to the command. -/
def cursorReadings (path : String) (line column : Int) : List (String × Reading) :=
  [(path, .argument),
    (valued "--line" (String.ofList (Json.renderInt line)),
      .option (some ⟨.line, ["--line"], true⟩) "--line"
        (some (String.ofList (Json.renderInt line)))),
    (valued "--column" (String.ofList (Json.renderInt column)),
      .option (some ⟨.column, ["--column"], true⟩) "--column"
        (some (String.ofList (Json.renderInt column))))]

theorem readWords_cursorWords {path : String} (noDash : path.toList.head? ≠ some '-')
    (line column : Int) :
    readWords Text.isDecimalDigit Command.mapCursor.options (cursorWords path line column).tail =
      .ok (cursorReadings path line column) := by
  have plain : ∀ entry ∈ namesOf Command.mapCursor.options, '=' ∉ entry.1.toList := by decide
  exact readWords_cons (ne_dashes noDash) (readWord_of_head?_ne _ _ noDash) <|
    readWords_cons (valued_ne_dashes _ _) (readWord_valued plain _ (by decide) (by decide) _) <|
    readWords_cons (valued_ne_dashes _ _) (readWord_valued plain _ (by decide) (by decide) _) rfl

section Short

variable {line column : Int} (shortLine : line.natAbs < Nat.pow 10 Number.maxDigits)
  (shortColumn : column.natAbs < Nat.pow 10 Number.maxDigits)

include shortLine shortColumn

theorem goThrough_cursorReadings (path : String) :
    goThrough Command.mapCursor.options 4 {} (cursorReadings path line column) =
      .ok (cursorArguments path line column) := by
  let source : Arguments := { source := some (Path.ofString path) }
  have setLine : source.set ⟨.line, ["--line"], true⟩ (String.ofList (Json.renderInt line)) =
      .ok { source with line := .value line } := by
    simp only [Arguments.set, givenOf_renderInt _ shortLine]
    rfl
  have setColumn : Arguments.set { source with line := .value line } ⟨.column, ["--column"], true⟩
      (String.ofList (Json.renderInt column)) = .ok (cursorArguments path line column) := by
    simp only [Arguments.set, givenOf_renderInt _ shortColumn]
    rfl
  calc goThrough Command.mapCursor.options 4 {} (cursorReadings path line column)
    _ = goThrough Command.mapCursor.options 3 source (cursorReadings path line column).tail := rfl
    _ = goThrough Command.mapCursor.options 2 _ (cursorReadings path line column).tail.tail :=
      goThrough_value rfl setLine 2 _ _ _
    _ = goThrough Command.mapCursor.options 1 _ [] := goThrough_value rfl setColumn 1 _ _ _
    _ = .ok (cursorArguments path line column) := rfl

/-- **For every path that does not look like an option and all numbers that are not too long, there
is a command line that asks for the cursor.** -/
theorem ofWords_cursorWords {path : String} (noDash : path.toList.head? ≠ some '-') :
    Invocation.ofWords (cursorWords path line column) =
      .run .mapCursor (cursorArguments path line column) := by
  have understood : Arguments.ofWords .mapCursor (cursorWords path line column).tail =
      .ok (cursorArguments path line column) := by
    rw [Arguments.ofWords, readWords_cursorWords noDash]
    change goThrough Command.mapCursor.options 4 {} (cursorReadings path line column) >>= _ = _
    rw [goThrough_cursorReadings shortLine shortColumn]
    rfl
  have asked : Invocation.ofCommand .mapCursor (cursorWords path line column).tail =
      .run .mapCursor (cursorArguments path line column) := by
    rw [Invocation.ofCommand, understood]
    rfl
  have command : Command.ofWord? "map-cursor" = some .mapCursor := by decide
  obtain ⟨readings, passed⟩ := exists_readWords_cursorWords noDash line column
  rw [cursorWords] at passed ⊢
  rw [Invocation.ofWords]
  simp only [command, passed]
  exact asked

end Short

end Tabstave.Cli
