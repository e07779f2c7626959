import Tabstave.Proofs.Files.Store
import Tabstave.Proofs.Yaml.Keys
import Tabstave.Settings.Config

/-!
# What a configuration file changes

The entries of a configuration file are put over the defaults one after the other, and as their keys
differ, that comes to putting them over the defaults at once: a default that the file does not name
stays, a section is changed entry by entry, and anything else is replaced. Only what is no
dictionary, or names a default with a dictionary where there is none, is refused.
-/

namespace Tabstave.Config

open Value (DistinctKeys Named IsNew find? put overlay)

/-- What a setting becomes that is given another value: a section that is given a dictionary is
changed entry by entry, and all else is replaced. -/
def settle : Value → Value → Value
  | .dict section_, .dict entries => .dict (overlay (fun _ value ↦ value) section_ entries)
  | _, value => value

/-- A dictionary is given for a setting that is there and is none. -/
def Clashes (config : List (Value × Value)) (entry : Value × Value) : Prop :=
  ∃ entries old, entry.2 = .dict entries ∧ find? entry.1 config = some old ∧
    ∀ section_, old ≠ .dict section_

/-- Settings have names that differ, and so have the entries of their sections. -/
structure WellNamed (config : List (Value × Value)) : Prop where
  named : Named config
  sections : ∀ key section_, find? key config = some (.dict section_) → Named section_

/-- Keys differ, and so do those of the dictionaries among the values. -/
structure WellKeyed (entries : List (Value × Value)) : Prop where
  distinct : DistinctKeys entries
  inner : ∀ key inner, (key, .dict inner) ∈ entries → DistinctKeys inner

section Merge

variable {base done : List (Value × Value)} {key value : Value}

theorem settle_of_plain {old : Value} (plain : ∀ entries, value ≠ .dict entries) :
    settle old value = value := by
  unfold settle
  split
  · exact absurd rfl (plain _)
  · rfl

/-- One setting that does not clash is put over those that are there like those before it. -/
theorem mergeEntry_overlay (wellNamed : WellNamed base) (new : IsNew key done)
    (distinct : ∀ inner, value = .dict inner → DistinctKeys inner)
    (agrees : ¬Clashes base (key, value)) :
    mergeEntry (overlay settle base done) key value =
      .ok (overlay settle base (done ++ [(key, value)])) := by
  have found : find? key (overlay settle base done) = find? key base :=
    Value.find?_overlay_of_new wellNamed.named new
  rw [Value.overlay_append_singleton settle value wellNamed.named new]
  unfold mergeEntry
  rw [found]
  split
  · next entries section_ there =>
    rw [there, Option.map_some, Option.getD_some, settle,
      Value.putAll_eq_overlay (wellNamed.sections key section_ there) (distinct entries rfl)]
  · next entries old plain there =>
    exact absurd ⟨entries, old, rfl, there, fun section_ same ↦ plain section_ same⟩ agrees
  · next other =>
    cases there : find? key base with
    | none => rfl
    | some old =>
      rw [Option.map_some, Option.getD_some,
        settle_of_plain fun entries dict ↦ other entries old dict there]

theorem exists_error_of_clashes (wellNamed : WellNamed base) (new : IsNew key done)
    (clashes : Clashes base (key, value)) :
    ∃ fault, mergeEntry (overlay settle base done) key value = .error fault := by
  obtain ⟨entries, old, rfl, there, plain⟩ := clashes
  have found : find? key (overlay settle base done) = some old :=
    (Value.find?_overlay_of_new wellNamed.named new).trans there
  unfold mergeEntry
  rw [found]
  cases old with
  | dict section_ => exact absurd rfl (plain section_)
  | _ => exact ⟨_, rfl⟩

/-- The entries of a file are put over the settings all at once, unless one of them clashes. -/
theorem mergeEntries_overlay (wellNamed : WellNamed base) (done rest : List (Value × Value))
    (wellKeyed : WellKeyed (done ++ rest)) :
    ((∀ entry ∈ rest, ¬Clashes base entry) →
      mergeEntries (overlay settle base done) rest = .ok (overlay settle base (done ++ rest))) ∧
    ((∃ entry ∈ rest, Clashes base entry) →
      ∃ fault, mergeEntries (overlay settle base done) rest = .error fault) := by
  induction rest generalizing done with
  | nil => simp [mergeEntries]
  | cons entry rest ih =>
    -- Nothing that was put before has this key, so it meets what the settings had from the start.
    have new : IsNew entry.1 done := wellKeyed.distinct.isNew
    have inner (inner : List (Value × Value)) (dict : entry.2 = .dict inner) : DistinctKeys inner :=
      wellKeyed.inner entry.1 inner (by simp [← dict])
    rw [mergeEntries]
    by_cases clashes : Clashes base entry
    · obtain ⟨fault, failed⟩ := exists_error_of_clashes wellNamed new clashes
      rw [failed]
      exact ⟨fun agree ↦ absurd clashes (agree entry List.mem_cons_self), fun _ ↦ ⟨fault, rfl⟩⟩
    · rw [mergeEntry_overlay wellNamed new inner clashes]
      have ⟨succeeds, fails⟩ := ih (done ++ [entry]) (by simpa using wellKeyed)
      rw [← List.append_cons] at succeeds
      refine ⟨fun agree ↦ succeeds fun other mem ↦ agree other (List.mem_cons_of_mem _ mem), ?_⟩
      rintro ⟨other, mem, there⟩
      rcases List.mem_cons.1 mem with rfl | mem
      · exact absurd there clashes
      · exact fails ⟨other, mem, there⟩

end Merge

/-! ### The defaults -/

theorem named_defaults : Named defaults :=
  ⟨by simp [defaults, setting], by decide⟩

theorem wellNamed_defaults : WellNamed defaults := by
  refine ⟨named_defaults, fun key section_ found ↦ ?_⟩
  have mem := named_defaults.mem_of_find? found
  simp only [defaults, setting, texts, List.mem_cons, Prod.mk.injEq, Value.dict.injEq, reduceCtorEq,
    and_false, false_or, List.not_mem_nil, or_false] at mem
  rcases mem with ⟨-, rfl⟩ | ⟨-, rfl⟩
  · exact ⟨by simp, by decide⟩
  · exact ⟨by simp, by decide⟩

/-- The defaults for which a dictionary is refused. -/
def plainSettings : List String :=
  ["short_form_extensions", "document_extensions", "encoding"]

/-- What clashes with the defaults is a dictionary for one of these. -/
theorem clashes_defaults_iff {entry : Value × Value} :
    Clashes defaults entry ↔
      ∃ name ∈ plainSettings, ∃ entries, entry = (.str name, .dict entries) := by
  obtain ⟨key, value⟩ := entry
  constructor
  · rintro ⟨entries, old, rfl, found, plain⟩
    have mem := named_defaults.mem_of_find? found
    simp only [defaults, setting, texts, List.mem_cons, Prod.mk.injEq, List.not_mem_nil,
      or_false] at mem
    rcases mem with ⟨rfl, -⟩ | ⟨rfl, -⟩ | ⟨rfl, -⟩ | ⟨-, rfl⟩ | ⟨-, rfl⟩
    · exact ⟨_, by simp [plainSettings], entries, rfl⟩
    · exact ⟨_, by simp [plainSettings], entries, rfl⟩
    · exact ⟨_, by simp [plainSettings], entries, rfl⟩
    · exact absurd rfl (plain _)
    · exact absurd rfl (plain _)
  · rintro ⟨name, mem, entries, same⟩
    cases same
    simp only [plainSettings, List.mem_cons, List.not_mem_nil, or_false] at mem
    rcases mem with rfl | rfl | rfl
    · exact ⟨entries, _, rfl, rfl, nofun⟩
    · exact ⟨entries, _, rfl, rfl, nofun⟩
    · exact ⟨entries, _, rfl, rfl, nofun⟩

/-! ### Loading a configuration file -/

/-- There is a configuration file, and it gives `user`. -/
structure Gives (store : Store) (path : Path) (user : Value) : Prop where
  there : ∃ node, store.find? path = .ok (some node)
  read : ∃ bytes text, store.read path = .ok bytes ∧ textOf bytes = .ok text ∧
    Yaml.load text = .ok user

theorem Gives.load_eq {store : Store} {path : Path} {user : Value} (gives : Gives store path user) :
    load store (some path) = (merge defaults user).map .dict := by
  obtain ⟨⟨node, there⟩, bytes, text, read, decoded, loaded⟩ := gives
  simp only [load, there, read, decoded, loaded, bind, Except.bind, pure, Except.pure]
  cases merge defaults user <;> rfl

theorem Gives.wellKeyed {store : Store} {path : Path} {entries : List (Value × Value)}
    (gives : Gives store path (.dict entries)) : WellKeyed entries := by
  obtain ⟨-, _, _, -, -, loaded⟩ := gives
  exact ⟨(Yaml.distinctKeys_of_load loaded).1, (Yaml.distinctKeys_of_load loaded).2⟩

/-- A dictionary is given for a default that is no section. -/
def Refused (entries : List (Value × Value)) : Prop :=
  ∃ name ∈ plainSettings, ∃ inner, (.str name, .dict inner) ∈ entries

theorem refused_iff {entries : List (Value × Value)} :
    Refused entries ↔ ∃ entry ∈ entries, Clashes defaults entry := by
  constructor
  · rintro ⟨name, plain, inner, mem⟩
    exact ⟨_, mem, clashes_defaults_iff.2 ⟨name, plain, inner, rfl⟩⟩
  · rintro ⟨entry, mem, clashes⟩
    obtain ⟨name, plain, inner, rfl⟩ := clashes_defaults_iff.1 clashes
    exact ⟨name, plain, inner, mem⟩

/-- The entries of a file are put over the defaults, unless one of them is refused. -/
theorem merge_dict {entries : List (Value × Value)} (wellKeyed : WellKeyed entries) :
    (¬Refused entries → merge defaults (.dict entries) = .ok (overlay settle defaults entries)) ∧
      (Refused entries → ∃ fault, merge defaults (.dict entries) = .error fault) := by
  have merged : merge defaults (.dict entries) = mergeEntries defaults entries := by
    cases entries <;> rfl
  obtain ⟨succeeds, fails⟩ := mergeEntries_overlay wellNamed_defaults [] entries wellKeyed
  rw [Value.overlay_nil] at succeeds fails
  rw [merged, refused_iff]
  exact ⟨fun agrees ↦ succeeds fun entry mem clashes ↦ agrees ⟨entry, mem, clashes⟩, fails⟩

theorem merge_of_silent {user : Value} (silent : user.isTruthy = false) :
    merge defaults user = .ok defaults := by
  unfold merge
  rw [if_neg (by simp [silent])]

theorem merge_of_plain {user : Value} (truthy : user.isTruthy = true)
    (plain : ∀ entries, user ≠ .dict entries) : ∃ fault, merge defaults user = .error fault := by
  unfold merge
  rw [if_pos truthy]
  cases user with
  | dict entries => exact absurd rfl (plain entries)
  | _ => exact ⟨_, rfl⟩

/-- What comes of a file is a fault if it is neither silent nor a dictionary that can be put over
the defaults. -/
theorem merge_error_iff {user : Value}
    (wellKeyed : ∀ entries, user = .dict entries → WellKeyed entries) :
    (∃ fault, merge defaults user = .error fault) ↔
      (user.isTruthy = true ∧ ∀ entries, user ≠ .dict entries) ∨
        ∃ entries, user = .dict entries ∧ Refused entries := by
  constructor
  · rintro ⟨fault, failed⟩
    by_cases dict : ∃ entries, user = .dict entries
    · obtain ⟨entries, rfl⟩ := dict
      refine .inr ⟨entries, rfl, not_not.1 fun agrees ↦ ?_⟩
      rw [(merge_dict (wellKeyed entries rfl)).1 agrees] at failed
      cases failed
    · refine .inl ⟨Bool.of_not_eq_false fun silent ↦ ?_, fun entries same ↦ dict ⟨entries, same⟩⟩
      rw [merge_of_silent silent] at failed
      cases failed
  · rintro (⟨truthy, plain⟩ | ⟨entries, rfl, refused⟩)
    · exact merge_of_plain truthy plain
    · exact (merge_dict (wellKeyed entries rfl)).2 refused

/-- **A configuration file changes the defaults one level deep.** A file that says nothing leaves
them. One that is a dictionary is put over them: a default that it does not name stays as it is, a
section that is given a dictionary is changed entry by entry, any other value replaces the default,
and what is new follows. Anything else is refused, and so is a dictionary for a default that is no
section. What comes of a file depends on what it says alone, whatever has been loaded before, and
without a file there are the defaults again. -/
theorem load_overlays_defaults {store : Store} {path : Path} {user : Value}
    (gives : Gives store path user) :
    (user.isTruthy = false → load store (some path) = .ok (.dict defaults)) ∧
      (∀ entries, user = .dict entries → ¬Refused entries →
        load store (some path) = .ok (.dict (overlay settle defaults entries))) ∧
      ((∃ fault, load store (some path) = .error fault) ↔
        (user.isTruthy = true ∧ ∀ entries, user ≠ .dict entries) ∨
          ∃ entries, user = .dict entries ∧ Refused entries) ∧
      ∀ other, load other none = .ok (.dict defaults) ∧
        ∀ elsewhere, Gives other elsewhere user →
          load other (some elsewhere) = load store (some path) := by
  rw [gives.load_eq]
  refine ⟨fun silent ↦ ?_, ?_, ?_, fun other ↦ ⟨rfl, fun elsewhere gives' ↦ gives'.load_eq⟩⟩
  · rw [merge_of_silent silent]
    rfl
  · rintro entries rfl agrees
    rw [(merge_dict gives.wellKeyed).1 agrees]
    rfl
  · rw [← merge_error_iff fun entries same ↦ (same ▸ gives).wellKeyed]
    cases merge defaults user <;> simp [Except.map]

/-- A text that gives an indentation, an encoding, and a setting of its own. -/
def sampleText : List Char :=
  "output:\n  indent_size: 4\nencoding: ascii\nauthor: me\n".toList

/-- What that text says. -/
def sampleEntries : List (Value × Value) :=
  [setting "output" (.dict [setting "indent_size" (.int 4)]), setting "encoding" (.str "ascii"),
    setting "author" (.str "me")]

/-- A file with that text, and nothing else. -/
def sampleStore : Store :=
  ⟨[(["a.yaml"], .file (Text.Utf8.encode sampleText))], []⟩

theorem textOf_sampleText : textOf (Text.Utf8.encode sampleText) = .ok sampleText := by
  have decodes : (textOf (Text.Utf8.encode sampleText)).toOption = some sampleText := by
    decide +kernel
  generalize textOf _ = result at decodes ⊢
  cases result with
  | error fault => cases decodes
  | ok text =>
    cases decodes
    rfl

/-- Whether something is said, and that is this. -/
def isSample : Except Fault Value → Bool
  | .ok (.dict [(.str "output", .dict [(.str "indent_size", .int 4)]),
      (.str "encoding", .str "ascii"), (.str "author", .str "me")]) => true
  | _ => false

theorem load_sampleText : Yaml.load sampleText = .ok (.dict sampleEntries) := by
  have reads : isSample (Yaml.load sampleText) = true := by decide +kernel
  generalize Yaml.load sampleText = result at reads ⊢
  unfold isSample at reads
  split at reads
  · rfl
  · cases reads

/-- An indentation in a file leaves the other settings of the output as they are. -/
theorem load_sampleStore :
    Gives sampleStore (Path.ofString "a.yaml") (.dict sampleEntries) ∧
      load sampleStore (some (Path.ofString "a.yaml")) =
        .ok (.dict [setting "short_form_extensions" (texts [".tab"]),
          setting "document_extensions" (texts [".vt", ".vextab", ".tab"]),
          setting "encoding" (.str "ascii"),
          setting "output" (.dict [setting "pretty_print" (.bool true),
            setting "indent_size" (.int 4), setting "include_kinds" (.bool true)]),
          setting "logging" (.dict [setting "level" (.str "INFO")]),
          setting "author" (.str "me")]) := by
  have noNul : Store.hasNul (Path.ofString "a.yaml") = false :=
    Store.hasNul_eq_false (by decide +kernel)
  have gives : Gives sampleStore (Path.ofString "a.yaml") (.dict sampleEntries) :=
    ⟨⟨_, Store.find?_of_resolve noNul rfl⟩, _, _, Store.read_of_resolve noNul rfl,
      textOf_sampleText, load_sampleText⟩
  refine ⟨gives, (load_overlays_defaults gives).2.1 _ rfl ?_⟩
  rintro ⟨name, plain, inner, mem⟩
  have output : name = "output" := by
    simp only [sampleEntries, setting, List.mem_cons, Prod.mk.injEq, reduceCtorEq, and_false,
      List.not_mem_nil, or_false, Value.str.injEq] at mem
    exact mem.1
  rw [output] at plain
  simp [plainSettings] at plain

end Tabstave.Config
