import Tabstave.Proofs.Document.Name
import Tabstave.Proofs.Text.Case

/-!
# Recognising names by their endings

The test for an extension changes name and extension to lower case, each by itself, and then looks
for the one at the end of the other. So it does not see the case of ASCII letters
(`isNamed_congr`), and for the usual extensions that is all the freedom there is
(`hasExtension_iff_suffix_map`). But a name can end with an extension and not have it: a capital
sigma changes by what stands in front of it, which is more in the name than in the extension alone
(`hasExtension_append`, `hasName_sigma`).
-/

namespace Tabstave.Document

/-! ### One extension -/

/-- Whether an extension starts with a sigma that ends a word behind this stem, but not by
itself. -/
def turnsSigma (stem extension : List Char) : Bool :=
  Text.meetsCased stem.reverse && Text.startsWithLooseSigma extension

/-- **A name has the extension that it ends with**, unless that starts with a sigma which changes
behind the stem of the name. -/
theorem hasExtension_append (stem extension : List Char) :
    hasExtension (stem ++ extension) extension = !turnsSigma stem extension := by
  rw [Bool.eq_iff_iff, hasExtension, List.isSuffixOf_iff_suffix, Text.suffix_lowerCase_append_iff,
    Bool.not_eq_true', turnsSigma]

theorem hasExtension_map_toLower (name extension : List Char) :
    hasExtension (name.map Char.toLower) (extension.map Char.toLower) =
      hasExtension name extension := by
  rw [hasExtension, Text.lowerCase_map_toLower, Text.lowerCase_map_toLower, hasExtension]

/-- Of an extension in lower case that only ASCII leads to, a name that has it shows each letter in
one case or the other. -/
theorem hasExtension_iff_suffix_map {extension : List Char}
    (steady : extension.all Text.isSteady = true) (plain : extension.all Text.isPlain = true)
    (name : List Char) :
    hasExtension name extension = true ↔ extension <:+ name.map Char.toLower := by
  constructor
  · intro has
    rw [hasExtension, List.isSuffixOf_iff_suffix, Text.lowerCase,
      Text.lowerCaseAfter_eq_self steady] at has
    exact Text.suffix_map_toLower_of_suffix (List.all_eq_true.1 plain) has
  · intro ends
    have has := hasExtension_of_suffix steady ends
    rwa [hasExtension, Text.lowerCase_map_toLower] at has

/-! ### Lists of extensions -/

theorem isNamed_iff {name : String} (some_name : name ≠ "") (extensions : List String) :
    isNamed extensions (some name) = true ↔
      ∃ extension ∈ extensions, hasExtension name.toList extension.toList = true := by
  have letters : name.toList.isEmpty = false := by
    rwa [List.isEmpty_eq_false_iff, Ne, String.toList_eq_nil_iff]
  rw [isNamed, Option.any_some, endsWithAny, letters, Bool.not_false, Bool.true_and, List.any_map,
    List.any_eq_true]
  rfl

/-- A name that ends with an extension, by itself or among others. -/
theorem isNamed_append {stem extension : String} (some_name : stem ++ extension ≠ "") :
    isNamed [extension] (some (stem ++ extension)) =
        !turnsSigma stem.toList extension.toList ∧
      ∀ extensions : List String, extension ∈ extensions →
        turnsSigma stem.toList extension.toList = false →
          isNamed extensions (some (stem ++ extension)) = true := by
  have has := hasExtension_append stem.toList extension.toList
  rw [← String.toList_append] at has
  constructor
  · rw [Bool.eq_iff_iff, isNamed_iff some_name, ← has]
    simp
  · intro extensions mem steady
    rw [steady] at has
    exact (isNamed_iff some_name _).2 ⟨extension, mem, has⟩

theorem toList_toLower (text : String) : text.toLower.toList = text.toList.map Char.toLower :=
  String.toList_map

theorem isNamed_map_toLower (extensions : List String) (name : String) :
    isNamed (extensions.map String.toLower) (some name.toLower) =
      isNamed extensions (some name) := by
  simp only [isNamed, endsWithAny, Option.any_some, toList_toLower, List.isEmpty_map, List.any_map,
    Function.comp_def, hasExtension_map_toLower]

/-- **Names that differ in the case of ASCII letters only are the same to extensions that do.** -/
theorem isNamed_congr {name other : String} (same : name.toLower = other.toLower)
    {extensions others : List String}
    (sameToo : extensions.map String.toLower = others.map String.toLower) :
    isNamed extensions (some name) = isNamed others (some other) := by
  rw [← isNamed_map_toLower, same, sameToo, isNamed_map_toLower]

/-! ### The usual extensions -/

theorem isNamed_shortFormExtensions_iff (name : String) :
    isNamed shortFormExtensions (some name) = true ↔ ".tab".toList <:+ name.toLower.toList := by
  by_cases empty : name = ""
  · subst empty
    decide +kernel
  · rw [isNamed_iff empty, shortFormExtensions, toList_toLower,
      ← hasExtension_iff_suffix_map (by decide +kernel) (by decide +kernel)]
    simp

/-- Documents in short form are documents. -/
theorem isNamed_documentExtensions {name : String}
    (shortForm : isNamed shortFormExtensions (some name) = true) :
    isNamed documentExtensions (some name) = true := by
  have some_name : name ≠ "" := by
    rintro rfl
    cases shortForm
  obtain ⟨extension, mem, has⟩ := (isNamed_iff some_name _).1 shortForm
  have among : shortFormExtensions ⊆ documentExtensions := by decide
  exact (isNamed_iff some_name _).2 ⟨extension, among mem, has⟩

/-! ### What names are recognised by -/

/-- **A name that ends with one of the extensions is recognised, unless that extension starts with a
sigma which changes behind the stem**; then the extension by itself does not recognise it. The case
of ASCII letters makes no difference. With the usual extensions a name is that of a document in
short form exactly if it ends with `.tab`, the case of these letters aside, and then it is that of
a document. -/
theorem hasName_by_ending (name : String) :
    (∀ stem extension : String, stem ++ extension = name → name ≠ "" →
      hasName (some name) (.tuple [.str extension]) =
        .ok !turnsSigma stem.toList extension.toList ∧
      ∀ extensions : List String, extension ∈ extensions →
        turnsSigma stem.toList extension.toList = false →
          hasName (some name) (.tuple (extensions.map .str)) = .ok true) ∧
    (∀ (other : String) (extensions others : List String), name.toLower = other.toLower →
      extensions.map String.toLower = others.map String.toLower →
        hasName (some name) (.tuple (extensions.map .str)) =
          hasName (some other) (.tuple (others.map .str))) ∧
    (hasName (some name) (.tuple (shortFormExtensions.map .str)) = .ok true ↔
      ".tab".toList <:+ name.toLower.toList) ∧
    (hasName (some name) (.tuple (shortFormExtensions.map .str)) = .ok true →
      hasName (some name) (.tuple (documentExtensions.map .str)) = .ok true) := by
  refine ⟨?_, fun other extensions others same sameToo ↦ ?_, ?_, ?_⟩
  · rintro stem extension rfl some_name
    obtain ⟨alone, among⟩ := isNamed_append some_name
    refine ⟨(hasName_texts _ [extension]).trans (congrArg _ alone), fun extensions mem steady ↦ ?_⟩
    rw [hasName_texts, among extensions mem steady]
  · rw [hasName_texts, hasName_texts, isNamed_congr same sameToo]
  · rw [hasName_texts, Except.ok.injEq]
    exact isNamed_shortFormExtensions_iff name
  · rw [hasName_texts, hasName_texts, Except.ok.injEq, Except.ok.injEq]
    exact isNamed_documentExtensions

/-- A name that ends with an extension and does not have it: behind the stem the sigma ends a
word. -/
theorem hasName_sigma :
    ".Σ".toList <:+ "song.Σ".toList ∧
      hasName (some "song.Σ") (.tuple [.str ".Σ"]) = .ok false := by
  have unnamed : isNamed [".Σ"] (some "song.Σ") = false := by decide +kernel
  exact ⟨by decide +kernel, (hasName_texts _ [".Σ"]).trans (congrArg _ unnamed)⟩

end Tabstave.Document
