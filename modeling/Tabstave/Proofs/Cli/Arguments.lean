import Mathlib.Data.List.Basic
import Tabstave.Cli.Arguments
import Tabstave.Proofs.Number.Whole

/-!
# What a command line can set

A command takes no other options than its own: a word is read as one of them or as none
(`mem_of_readWord`). So what none of its options and no other word breaks holds of the arguments of
a command, however its command line looks: `IsKept.ofWords` is the induction over the words. In this
way a command that has no option for a directory gets none, and the numbers that any command gets
have no more digits than can be read.
-/

namespace Tabstave.Cli

/-! ### Reading words -/

theorem mem_of_mem_namesOf {options : List OptionSpec} {name : String} {spec : OptionSpec}
    (mem : (name, spec) ∈ namesOf options) : spec ∈ options := by
  obtain ⟨other, inside, named⟩ := List.mem_flatMap.1 mem
  obtain ⟨_, _, same⟩ := List.mem_map.1 named
  cases same
  exact inside

theorem mem_of_lookup_namesOf {options : List OptionSpec} {name : String} {spec : OptionSpec}
    (found : (namesOf options).lookup name = some spec) : spec ∈ options := by
  obtain ⟨before, behind, parts, -⟩ := List.lookup_eq_some_iff.1 found
  have mem : (name, spec) ∈ namesOf options := parts ▸ List.mem_append_cons_self
  exact mem_of_mem_namesOf mem

/-- A word is short only for names of the options. -/
theorem mem_of_mem_candidates {options : List OptionSpec} {word : String}
    {candidate : OptionSpec × String × Option String} (mem : candidate ∈ candidates options word) :
    candidate.1 ∈ options := by
  rw [candidates] at mem
  split at mem
  · obtain ⟨⟨name, spec⟩, inside, kept⟩ := List.mem_filterMap.1 mem
    dsimp only at kept
    split_ifs at kept
    cases kept
    exact mem_of_mem_namesOf inside
  · obtain ⟨⟨name, spec⟩, inside, kept⟩ := List.mem_filterMap.1 mem
    dsimp only at kept
    have same : spec = candidate.1 := by split_ifs at kept <;> cases kept <;> rfl
    exact same ▸ mem_of_mem_namesOf inside

/-- A word is read as one of the options of its command, if as any. -/
theorem mem_of_readWord {isDigit : Char → Bool} {options : List OptionSpec} {word name : String}
    {spec : OptionSpec} {explicit : Option String}
    (read : readWord isDigit options word = .ok (.option (some spec) name explicit)) :
    spec ∈ options := by
  rw [readWord] at read
  split at read
  · cases read
  split at read
  · next found => cases read; exact mem_of_lookup_namesOf found
  split at read
  · cases read
  dsimp only at read
  split at read
  · next found => cases read; exact mem_of_lookup_namesOf found
  split at read
  · next only =>
    cases read
    have mem : (spec, name, explicit) ∈ candidates options word := only ▸ List.mem_singleton_self _
    exact mem_of_mem_candidates mem
  · split at read <;> cases read
  · cases read

/-- All options among some readings are options of a command. -/
def AreOf (options : List OptionSpec) (readings : List (String × Reading)) : Prop :=
  ∀ (word : String) (spec : OptionSpec) (name : String) (explicit : Option String),
    (word, .option (some spec) name explicit) ∈ readings → spec ∈ options

theorem AreOf.mono {options : List OptionSpec} {readings rest : List (String × Reading)}
    (known : AreOf options readings) (part : rest ⊆ readings) : AreOf options rest :=
  fun word spec name explicit mem ↦ known word spec name explicit (part mem)

theorem areOf_readWords {isDigit : Char → Bool} {options : List OptionSpec} {words : List String}
    {readings : List (String × Reading)} (read : readWords isDigit options words = .ok readings) :
    AreOf options readings := by
  induction words generalizing readings with
  | nil =>
    cases read
    intro word spec name explicit mem
    cases mem
  | cons word words ih =>
    rw [readWords] at read
    split at read
    · cases read
      intro other spec name explicit mem
      rcases List.mem_cons.1 mem with same | mem
      · cases same
      · obtain ⟨_, _, same⟩ := List.mem_map.1 mem
        cases same
    · split at read
      · cases read
      · next reading first =>
        cases later : readWords isDigit options words with
        | error names => rw [later] at read; cases read
        | ok readings =>
          rw [later] at read
          cases read
          intro other spec name explicit mem
          rcases List.mem_cons.1 mem with same | mem
          · cases same
            exact mem_of_readWord first
          · exact ih later other spec name explicit mem

/-! ### Going through the words -/

theorem mem_of_takeOptions {options : List OptionSpec} {fuel : Nat} {spec : OptionSpec}
    {name : String} {explicit : Option String} {rest rest' : List (String × Reading)}
    {taken : List (OptionSpec × String)} (inside : spec ∈ options)
    (took : takeOptions options fuel spec name explicit rest = .ok (taken, rest')) :
    (∀ option ∈ taken, option.1 ∈ options) ∧ rest' ⊆ rest := by
  induction fuel generalizing spec name explicit rest rest' taken with
  | zero =>
    cases took
    exact ⟨List.forall_mem_nil _, List.Subset.refl _⟩
  | succ fuel ih =>
    cases explicit with
    | none =>
      rw [takeOptions.eq_def] at took
      dsimp only at took
      split at took
      · split at took
        · cases took
          exact ⟨List.forall_mem_singleton.2 inside, List.subset_cons_self _ _⟩
        · cases took
      · cases took
        exact ⟨List.forall_mem_singleton.2 inside, List.Subset.refl _⟩
    | some value =>
      rw [takeOptions] at took
      split at took
      · cases took
        exact ⟨List.forall_mem_singleton.2 inside, List.Subset.refl _⟩
      · split at took
        · cases took
        · split at took
          · cases took
          · dsimp only at took
            split at took
            · cases took
            · -- A flag with letters behind it: they are read as further flags in one word.
              next letter more _ _ _ nextSpec found =>
              cases later : takeOptions options fuel nextSpec (String.ofList ['-', letter])
                  (if more.isEmpty then none else some (String.ofList more)) rest with
              | error halt => rw [later] at took; cases took
              | ok result =>
                obtain ⟨others, rest'⟩ := result
                rw [later] at took
                cases took
                obtain ⟨known, part⟩ := ih (mem_of_lookup_namesOf found) later
                exact ⟨List.forall_mem_cons.2 ⟨inside, known⟩, part⟩

/-! ### What the words keep -/

/-- What is done with a computation that gave a result, was done with some value. -/
theorem exists_of_bind_eq_ok {ε α β : Type} {first : Except ε α} {next : α → Except ε β}
    {result : β} (done : first >>= next = .ok result) :
    ∃ a, first = .ok a ∧ next a = .ok result := by
  cases first with
  | error fault => cases done
  | ok a => exact ⟨a, rfl, done⟩

/-- What neither the options of a command nor other words break. -/
structure IsKept (options : List OptionSpec) (P : Arguments → Prop) : Prop where
  addExtra : ∀ arguments word, P arguments → P (arguments.addExtra word)
  source : ∀ arguments path, P arguments → P { arguments with source := some path }
  set : ∀ spec ∈ options, ∀ arguments value result, P arguments →
    arguments.set spec value = .ok result → P result

section IsKept

variable {options : List OptionSpec} {P : Arguments → Prop}

theorem IsKept.setAll (kept : IsKept options P) {taken : List (OptionSpec × String)}
    (inside : ∀ option ∈ taken, option.1 ∈ options) {arguments result : Arguments}
    (before : P arguments) (done : arguments.setAll taken = .ok result) : P result := by
  induction taken generalizing arguments with
  | nil => cases done; exact before
  | cons option taken ih =>
    obtain ⟨spec, value⟩ := option
    obtain ⟨first, others⟩ := List.forall_mem_cons.1 inside
    obtain ⟨arguments', set, rest⟩ := exists_of_bind_eq_ok done
    exact ih others (kept.set spec first arguments value arguments' before set) rest

theorem IsKept.goThrough (kept : IsKept options P) {fuel : Nat} {arguments result : Arguments}
    {readings : List (String × Reading)} (known : AreOf options readings) (before : P arguments)
    (done : goThrough options fuel arguments readings = .ok result) : P result := by
  induction fuel generalizing arguments readings with
  | zero =>
    cases readings with
    | nil => cases done; exact before
    | cons reading rest => cases done; exact before
  | succ fuel ih =>
    cases readings with
    | nil => cases done; exact before
    | cons reading rest =>
      obtain ⟨word, reading⟩ := reading
      have later : AreOf options rest := known.mono (List.subset_cons_self _ _)
      rw [goThrough.eq_def] at done
      dsimp only at done
      split at done
      · exact ih later (kept.addExtra _ word before) done
      · -- An option takes words off the rest, and only options of the command set anything.
        next spec name explicit =>
        have inside : spec ∈ options := known word spec name explicit List.mem_cons_self
        obtain ⟨⟨taken, rest'⟩, took, done⟩ := exists_of_bind_eq_ok done
        obtain ⟨insideAll, part⟩ := mem_of_takeOptions inside took
        obtain ⟨arguments', set, done⟩ := exists_of_bind_eq_ok done
        exact ih (later.mono part) (kept.setAll insideAll before set) done
      · split at done
        · split at done
          · exact ih (later.mono (List.subset_cons_self _ _)) (kept.source _ _ before) done
          · exact ih later (kept.source _ _ before) done
        · exact ih later (kept.addExtra _ word before) done
      · split at done
        · exact ih (later.mono (List.subset_cons_self _ _)) (kept.source _ _ before) done
        · exact ih later (kept.addExtra _ word before) done

/-- **What the options of a command and other words keep, and what holds with no words at all, holds
of the arguments of the command.** -/
theorem IsKept.ofWords {command : Command} (kept : IsKept command.options P) (start : P {})
    {words : List String} {arguments : Arguments}
    (read : Arguments.ofWords command words = .ok arguments) : P arguments := by
  rw [Arguments.ofWords] at read
  split at read
  · next readings done =>
    rw [pure_bind] at read
    obtain ⟨arguments', gone, read⟩ := exists_of_bind_eq_ok read
    dsimp only at read
    split_ifs at read
    cases read
    exact kept.goThrough (areOf_readWords done) start gone
  · cases read

end IsKept

/-! ### Arguments of a command that is run -/

/-- A command is run only with arguments that were read as its own. -/
theorem ofWords_of_ofCommand {command other : Command} {words : List String} {arguments : Arguments}
    (understood : Invocation.ofCommand other words = .run command arguments) :
    Arguments.ofWords command words = .ok arguments := by
  rw [Invocation.ofCommand] at understood
  split at understood
  · cases understood
  · cases understood
  · next read =>
    split_ifs at understood
    cases understood
    exact read

theorem exists_ofWords_of_run {words : List String} {command : Command} {arguments : Arguments}
    (understood : Invocation.ofWords words = .run command arguments) :
    ∃ rest, Arguments.ofWords command rest = .ok arguments := by
  rw [Invocation.ofWords.eq_def] at understood
  split at understood
  · cases understood
  · dsimp only at understood
    split at understood
    · cases understood
    · split at understood
      · exact ⟨_, ofWords_of_ofCommand understood⟩
      · split_ifs at understood

/-- An option that is not the one for a directory does not change the directory. -/
theorem outputDir_set {arguments result : Arguments} {spec : OptionSpec} {value : String}
    (other : spec.setting ≠ .outputDir) (done : arguments.set spec value = .ok result) :
    result.outputDir = arguments.outputDir := by
  rw [Arguments.set] at done
  cases setting : spec.setting <;> simp only [setting] at done
  case outputDir => exact absurd setting other
  case outputFilename | config | line | column =>
    obtain ⟨given, -, done⟩ := exists_of_bind_eq_ok done
    cases done
    rfl
  all_goals cases done <;> rfl

/-- The command that carries cursors over gets no directory. -/
theorem outputDir_of_mapCursor {words : List String} {arguments : Arguments}
    (understood : Invocation.ofWords words = .run .mapCursor arguments) :
    arguments.outputDir = .absent := by
  have kept : IsKept Command.mapCursor.options (·.outputDir = .absent) := by
    refine ⟨fun _ _ before ↦ before, fun _ _ before ↦ before, ?_⟩
    intro spec inside arguments value result before done
    have other : ∀ spec ∈ Command.mapCursor.options, spec.setting ≠ .outputDir := by decide
    exact (outputDir_set (other spec inside) done).trans before
  obtain ⟨rest, read⟩ := exists_ofWords_of_run understood
  exact kept.ofWords rfl read

/-- The numbers among the arguments have no more digits than can be read and written. -/
def Arguments.HasShortNumbers (arguments : Arguments) : Prop :=
  (∀ n, arguments.line = .value n → n.natAbs < Nat.pow 10 Number.maxDigits) ∧
    ∀ n, arguments.column = .value n → n.natAbs < Nat.pow 10 Number.maxDigits

theorem natAbs_lt_of_givenOf {spec : OptionSpec} {value : String} {n : Int}
    (given : givenOf value (numberOf spec) = .ok (.value n)) :
    n.natAbs < Nat.pow 10 Number.maxDigits := by
  rw [givenOf] at given
  split_ifs at given
  · cases given
  · rw [numberOf] at given
    split at given
    · next read => cases given; exact Number.natAbs_lt_of_int? read
    · cases given

theorem hasShortNumbers_set {arguments result : Arguments} {spec : OptionSpec} {value : String}
    (before : arguments.HasShortNumbers) (done : arguments.set spec value = .ok result) :
    result.HasShortNumbers := by
  rw [Arguments.set] at done
  cases setting : spec.setting <;> simp only [setting] at done
  case line =>
    obtain ⟨given, read, done⟩ := exists_of_bind_eq_ok done
    cases done
    exact ⟨fun n same ↦ natAbs_lt_of_givenOf (read.trans (congrArg _ same)), before.2⟩
  case column =>
    obtain ⟨given, read, done⟩ := exists_of_bind_eq_ok done
    cases done
    exact ⟨before.1, fun n same ↦ natAbs_lt_of_givenOf (read.trans (congrArg _ same))⟩
  case outputDir | outputFilename | config =>
    obtain ⟨given, -, done⟩ := exists_of_bind_eq_ok done
    cases done
    exact before
  all_goals cases done <;> exact before

theorem hasShortNumbers_of_run {words : List String} {command : Command} {arguments : Arguments}
    (understood : Invocation.ofWords words = .run command arguments) :
    arguments.HasShortNumbers := by
  have kept : IsKept command.options Arguments.HasShortNumbers :=
    ⟨fun _ _ before ↦ before, fun _ _ before ↦ before,
      fun _ _ _ _ _ before done ↦ hasShortNumbers_set before done⟩
  have start : Arguments.HasShortNumbers {} := ⟨fun _ h ↦ (nomatch h), fun _ h ↦ (nomatch h)⟩
  obtain ⟨rest, read⟩ := exists_ofWords_of_run understood
  exact kept.ofWords start read

end Tabstave.Cli
